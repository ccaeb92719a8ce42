import Mathlib.Logic.Function.Basic
import TaintTracking.Proofs.Program.Simulation
import TaintTracking.Proofs.Session.Tokens

/-!
Sessions that differ in the numbers of what was handed out since some moment. Main statement: if the second
session has passed over some numbers, everything that is done in both leaves them the same but for the
numbers from there on.
-/

namespace TaintTracking

/-- A change of numbers that keeps apart what is apart and leaves what is known alone. -/
structure Renumbering (known : Nat) where
  map : Nat → Nat
  injective : Function.Injective map
  fixes : ∀ id < known, map id = id

namespace Renumbering

def refl (known : Nat) : Renumbering known := ⟨id, Function.injective_id, fun _ _ => rfl⟩

/-- What leaves much alone leaves less alone. -/
def weaken {known later : Nat} (ρ : Renumbering later) (grown : known ≤ later) : Renumbering known where
  map := ρ.map
  injective := ρ.injective
  fixes id old := ρ.fixes id (Nat.lt_of_lt_of_le old grown)

def trans {known : Nat} (first second : Renumbering known) : Renumbering known where
  map := second.map ∘ first.map
  injective := second.injective.comp first.injective
  fixes := by
    intro id old
    rw [Function.comp_apply, first.fixes id old, second.fixes id old]

/-- Passes over `width` numbers. -/
def gap (base width : Nat) : Renumbering base where
  map id := if id < base then id else id + width
  injective := by
    intro a b same
    dsimp only at same
    split at same <;> split at same <;> omega
  fixes _ old := if_pos old

theorem gap_of_le {base width id : Nat} (new : base ≤ id) : (gap base width).map id = id + width :=
  if_neg (Nat.not_lt.mpr new)

theorem gap_le {base width id : Nat} : (gap base width).map id ≤ id + width := by
  dsimp only [gap]
  split <;> omega

end Renumbering

def Context.renumber (f : Nat → Nat) (context : Context) : Context :=
  { context with run := f context.run, store := f context.store }

theorem Context.renumber_of_known {known : Nat} (ρ : Renumbering known) {context : Context}
    (run : context.run < known) (store : context.store < known) : context.renumber ρ.map = context := by
  rw [renumber, ρ.fixes _ run, ρ.fixes _ store]

def OutputShape.renumber (f : Nat → Nat) : (shape : OutputShape) → shape.Result → shape.Result
  | .nothing, result => result
  | .text, result => result
  | .context, replacement => replacement.renumber f

def Alarm.renumber (f : Nat → Nat) (alarm : Alarm) : Alarm := { alarm with token := f alarm.token }

theorem assign_renumbered {α : Type} {f : Nat → Nat} (injective : Function.Injective f)
    {values values' : Nat → α} (same : ∀ i, values' (f i) = values i) (i : Nat) (value : α) (j : Nat) :
    assign values' (f i) value (f j) = assign values i value j := by
  unfold assign
  simp only [injective.eq_iff, same]

namespace Session

/-- The second session is the first one under other numbers. -/
structure Renumbered (f : Nat → Nat) (s t : Session) : Prop where
  stores : ∀ id, t.stores (f id) = s.stores id
  now : t.now = s.now
  cancelled : ∀ token, t.cancelled (f token) = s.cancelled token
  alarm : t.alarm = s.alarm.map (·.renumber f)
  forced : t.forced = s.forced
  consultations : t.consultations = s.consultations
  trail : t.trail = s.trail

namespace Renumbered
variable {f g : Nat → Nat} {s t u : Session}

theorem refl (s : Session) : s.Renumbered id s where
  stores _ := rfl
  now := rfl
  cancelled _ := rfl
  alarm := by cases s.alarm <;> rfl
  forced := rfl
  consultations := rfl
  trail := rfl

theorem trans (first : s.Renumbered f t) (second : t.Renumbered g u) : s.Renumbered (g ∘ f) u where
  stores id := (second.stores (f id)).trans (first.stores id)
  now := second.now.trans first.now
  cancelled token := (second.cancelled (f token)).trans (first.cancelled token)
  alarm := by
    rw [second.alarm, first.alarm, Option.map_map]
    rfl
  forced := second.forced.trans first.forced
  consultations := second.consultations.trans first.consultations
  trail := second.trail.trans first.trail

variable (renumbered : s.Renumbered f t)
include renumbered

theorem storeOf (context : Context) : t.storeOf (context.renumber f) = s.storeOf context :=
  renumbered.stores context.store

theorem view (context : Context) : t.view (context.renumber f) = s.view context := by
  rw [Session.view, renumbered.storeOf]
  rfl

theorem putStore (injective : Function.Injective f) (context : Context) (store : Store) :
    (s.putStore context store).Renumbered f (t.putStore (context.renumber f) store) :=
  { renumbered with
    stores := assign_renumbered injective renumbered.stores context.store store }

theorem edit (injective : Function.Injective f) (context : Context) (change : Store.Edit) :
    (s.edit context change).Renumbered f (t.edit (context.renumber f) change) := by
  rw [Session.edit, Session.edit, renumbered.storeOf]
  exact renumbered.putStore injective context _

theorem issue : s.issue.2.Renumbered f t.issue.2 := { renumbered with }

theorem cancel (injective : Function.Injective f) (token : TokenId) :
    (s.cancel token).Renumbered f (t.cancel (f token)) :=
  { renumbered with cancelled := assign_renumbered injective renumbered.cancelled token true }

theorem record (event : Event) : (s.record event).Renumbered f (t.record event) :=
  { renumbered with trail := congrArg (event :: ·) renumbered.trail }

theorem setForce (flag : FlagId) (force : Bool) :
    (s.setForce flag force).Renumbered f (t.setForce flag force) :=
  { renumbered with
    forced := by rw [Session.setForce, Session.setForce, renumbered.forced] }

theorem account (id : PolicyId) (descriptor : Descriptor) (store : Store)
    (verdict : Except TrustError Bool) :
    (Policy.account id descriptor store verdict s).Renumbered f
      (Policy.account id descriptor store verdict t) := by
  have counted : Session.Renumbered f
      { s with consultations := assign s.consultations id (s.consultations id + 1) }
      { t with consultations := assign t.consultations id (t.consultations id + 1) } :=
    { renumbered with consultations := by rw [renumbered.consultations] }
  exact counted.record _

theorem sleep (injective : Function.Injective f) (ms : Nat) :
    (s.sleep ms).Renumbered f (t.sleep ms) := by
  have later : Session.Renumbered f { s with now := s.now + ms } { t with now := t.now + ms } :=
    { renumbered with now := by rw [renumbered.now] }
  cases set : s.alarm with
  | none =>
    have quiet : t.alarm = none := by rw [renumbered.alarm, set]; rfl
    rw [sleep_of_quiet set, sleep_of_quiet quiet]
    exact later
  | some alarm =>
    have set' : t.alarm = some (alarm.renumber f) := by rw [renumbered.alarm, set]; rfl
    rcases Nat.lt_or_ge alarm.due (s.now + ms) with due | early
    · have due' : (alarm.renumber f).due < t.now + ms := by rw [renumbered.now]; exact due
      rw [sleep_of_due set due, sleep_of_due set' due']
      have silent : Session.Renumbered f ({ s with now := s.now + ms }.clearAlarm)
          ({ t with now := t.now + ms }.clearAlarm) := { later with alarm := rfl }
      exact (silent.cancel injective alarm.token).record _
    · have early' : t.now + ms ≤ (alarm.renumber f).due := by rw [renumbered.now]; exact early
      rw [sleep_of_early set early, sleep_of_early set' early']
      exact later

end Renumbered

end Session

/-- A number of identities that the second of two sessions has passed over, at a moment when some tokens were
held. -/
structure Gap where
  base : Nat
  width : Nat
  held : TokenId → Prop
  held_lt : ∀ token, held token → token < base

namespace Gap
variable (gap : Gap)

def numbers : Renumbering gap.base := .gap gap.base gap.width

structure Match (s t : Session) : Prop where
  since : gap.base ≤ s.issued
  issued : t.issued = s.issued + gap.width
  renumbered : s.Renumbered gap.numbers.map t
  tidy : t.Tidy

/-- The context is the same but for its numbers, which the session has handed out. -/
structure Pairs (n : Nat) (context other : Context) : Prop where
  renumbered : other = context.renumber gap.numbers.map
  run : context.run < n
  store : context.store < n

theorem lt_of_lt {id n : Nat} (known : id < n) : gap.numbers.map id < n + gap.width :=
  Nat.lt_of_le_of_lt Renumbering.gap_le (Nat.add_lt_add_right known gap.width)

namespace Match
variable {gap} {s t : Session} (same : gap.Match s t)
include same

theorem numbers_issued : gap.numbers.map s.issued = t.issued := by
  rw [same.issued]
  exact Renumbering.gap_of_le same.since

theorem known {c c' : Context} (pairs : gap.Pairs s.issued c c') :
    c'.run < t.issued ∧ t.HasStore c' := by
  rw [Session.HasStore, same.issued, pairs.renumbered]
  exact ⟨gap.lt_of_lt pairs.run, gap.lt_of_lt pairs.store⟩

theorem putStore {c c' : Context} (pairs : gap.Pairs s.issued c c') (store : Store) :
    gap.Match (s.putStore c store) (t.putStore c' store) := by
  refine ⟨same.since, same.issued, ?_, same.tidy.putStore (same.known pairs).2 store⟩
  rw [pairs.renumbered]
  exact same.renumbered.putStore gap.numbers.injective c store

theorem issue : gap.Match s.issue.2 t.issue.2 where
  since := Nat.le_succ_of_le same.since
  issued := by
    dsimp only [Session.issue]
    rw [same.issued]
    omega
  renumbered := same.renumbered.issue
  tidy := same.tidy.issue

theorem cancel {token : TokenId} (known : token < s.issued) :
    gap.Match (s.cancel token) (t.cancel (gap.numbers.map token)) where
  since := same.since
  issued := same.issued
  renumbered := same.renumbered.cancel gap.numbers.injective token
  tidy := by
    refine same.tidy.cancel ?_
    rw [same.issued]
    exact gap.lt_of_lt known

theorem sleep (ms : Nat) : gap.Match (s.sleep ms) (t.sleep ms) where
  since := by
    rw [Session.sleep_issued]
    exact same.since
  issued := by
    rw [Session.sleep_issued, Session.sleep_issued]
    exact same.issued
  renumbered := same.renumbered.sleep gap.numbers.injective ms
  tidy := same.tidy.sleep ms

/-- A new context is on the next number of each session. -/
theorem newContext (store : Store) :
    gap.Pairs (s.issued + 1) (s.newContext store).1 (t.newContext store).1 ∧
      gap.Match (s.newContext store).2 (t.newContext store).2 := by
  have pairs : gap.Pairs (s.issued + 1) (Context.new s.issued s.issued)
      (Context.new t.issued t.issued) := by
    refine ⟨?_, Nat.lt_succ_self _, Nat.lt_succ_self _⟩
    rw [← same.numbers_issued]
    rfl
  exact ⟨pairs, same.issue.putStore pairs store⟩

theorem cloneContext {c c' : Context} (pairs : gap.Pairs s.issued c c') :
    gap.Pairs (s.issued + 1) (s.cloneContext c).1 (t.cloneContext c').1 ∧
      gap.Match (s.cloneContext c).2 (t.cloneContext c').2 := by
  have copies : gap.Pairs (s.issued + 1) { c with store := s.issued } { c' with store := t.issued } := by
    refine ⟨?_, Nat.lt_succ_of_lt pairs.run, Nat.lt_succ_self _⟩
    rw [← same.numbers_issued, pairs.renumbered]
    rfl
  have seen : t.issue.2.storeOf c' = s.issue.2.storeOf c := by
    rw [pairs.renumbered]
    exact same.renumbered.storeOf c
  have written := same.issue.putStore copies (s.issue.2.storeOf c)
  refine ⟨copies, ?_⟩
  dsimp only [Session.cloneContext]
  rw [seen]
  exact written

end Match

/-- A tidy session and what it is when it passes over the next numbers. -/
theorem match_skip {s : Session} (tidy : s.Tidy) (base : gap.base = s.issued) :
    gap.Match s { s with issued := s.issued + gap.width } := by
  have numbers : ∀ id, gap.numbers.map id = id ∨
      s.issued ≤ id ∧ gap.numbers.map id = id + gap.width := by
    intro id
    rcases Nat.lt_or_ge id gap.base with old | new
    · exact .inl (gap.numbers.fixes id old)
    · exact .inr ⟨base ▸ new, Renumbering.gap_of_le new⟩
  refine ⟨Nat.le_of_eq base, rfl, ?_, ?_⟩
  · refine ⟨fun id => ?_, rfl, fun token => ?_, ?_, rfl, rfl, rfl⟩
    · rcases numbers id with same | ⟨new, later⟩
      · rw [same]
      · rw [later, tidy.unwritten id new]
        exact tidy.unwritten _ (Nat.le_add_right_of_le new)
    · rcases numbers token with same | ⟨new, later⟩
      · rw [same]
      · rw [later, tidy.uncancelled token new]
        exact tidy.uncancelled _ (Nat.le_add_right_of_le new)
    · cases set : s.alarm with
      | none => rfl
      | some alarm =>
        rcases numbers alarm.token with same | ⟨new, -⟩
        · rw [Option.map_some, Alarm.renumber, same]
        · have never := tidy.unalarmed alarm.token new
          rw [Session.timeLeft_of_alarm set, if_pos rfl] at never
          cases never
  · exact ⟨fun id new => tidy.unwritten id (Nat.le_of_add_right_le new),
      fun token new => tidy.uncancelled token (Nat.le_of_add_right_le new),
      fun token new => tidy.unalarmed token (Nat.le_of_add_right_le new)⟩

/-- The two sessions stay the same but for the numbers after the gap. -/
def simulation : Simulation where
  sessions := gap.Match
  contexts := gap.Pairs
  tokens n token other := other = gap.numbers.map token ∧ token < n
  guards _ := True
  held := gap.held
  contexts_mono later := fun ⟨renumbered, run, store⟩ =>
    ⟨renumbered, Nat.lt_of_lt_of_le run later, Nat.lt_of_lt_of_le store later⟩
  tokens_mono later := fun ⟨renumbered, known⟩ => ⟨renumbered, Nat.lt_of_lt_of_le known later⟩
  error pairs := by
    rw [pairs.renumbered]
    rfl
  description pairs := by
    rw [pairs.renumbered]
    rfl
  fail pairs error := ⟨congrArg (·.fail error) pairs.renumbered, pairs.run, pairs.store⟩
  clearError pairs := ⟨congrArg Context.clearError pairs.renumbered, pairs.run, pairs.store⟩
  storeOf := by
    intro s t c c' same pairs
    rw [pairs.renumbered, same.renumbered.storeOf]
  edit := by
    intro s t c c' same pairs change
    rw [Session.edit, Session.edit, pairs.renumbered, same.renumbered.storeOf, ← pairs.renumbered]
    exact same.putStore pairs _
  newContext same := same.newContext
  cloneContext same pairs := same.cloneContext pairs
  newToken := by
    intro s t same
    exact ⟨⟨same.numbers_issued.symm, Nat.lt_succ_self _⟩, same.issue⟩
  isCancelled := by
    rintro s t token _ same ⟨rfl, -⟩
    exact same.renumbered.cancelled token
  cancel := by
    rintro s t token _ same ⟨rfl, known⟩
    exact same.cancel known
  cancelHeld := by
    intro s t token same held
    have old := gap.held_lt token held
    have cancelled := same.cancel (Nat.lt_of_lt_of_le old same.since)
    rwa [gap.numbers.fixes token old] at cancelled
  sleep same := same.sleep
  setForce := by
    intro s t same flag force
    exact ⟨same.since, same.issued, same.renumbered.setForce flag force,
      same.tidy.congr rfl rfl rfl rfl⟩
  record := by
    intro s t same event
    exact ⟨same.since, same.issued, same.renumbered.record event, same.tidy.congr rfl rfl rfl rfl⟩
  forcesUntrusted := by
    intro s t guard same _
    rw [Guard.forcesUntrusted, Guard.forcesUntrusted, same.renumbered.forced]
  answersAlike := by
    intro s t guard same _
    exact Policy.AnswersAlike.of_eq same.renumbered.consultations guard.policy
  account := by
    intro s t same id descriptor store verdict
    exact ⟨same.since, same.issued, same.renumbered.account id descriptor store verdict,
      same.tidy.congr rfl rfl rfl rfl⟩

end Gap

end TaintTracking
