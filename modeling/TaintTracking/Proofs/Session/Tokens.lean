import TaintTracking.Proofs.Session.Effects

/-!
What tokens come to as time passes. A token is known by whether it is cancelled and by the time that is left
until its alarm; the clock itself is not seen.
-/

namespace TaintTracking.Session

/-- The time until the alarm cancels the token, if it is to cancel this one. -/
def timeLeft (s : Session) (token : TokenId) : Option Int :=
  (s.alarm.filter (·.token = token)).map fun alarm => (alarm.due : Int) - s.now

section Sleep
variable {s : Session} {token : TokenId} {alarm : Alarm}

theorem timeLeft_of_quiet (quiet : s.alarm = none) : s.timeLeft token = none := by
  rw [timeLeft, quiet]
  rfl

theorem timeLeft_of_alarm (set : s.alarm = some alarm) :
    s.timeLeft token = if alarm.token = token then some ((alarm.due : Int) - s.now) else none := by
  by_cases mine : alarm.token = token <;> simp [timeLeft, set, mine, Option.filter]

theorem sleep_cancelled (ms : Nat) : (s.sleep ms).cancelled token =
    (s.cancelled token || (s.timeLeft token).any fun (left : Int) => decide (left < ms)) := by
  cases set : s.alarm with
  | none => simp [sleep_of_quiet set, timeLeft_of_quiet set]
  | some alarm =>
    rw [timeLeft_of_alarm set]
    rcases Nat.lt_or_ge alarm.due (s.now + ms) with due | early
    · have soon : (alarm.due : Int) - s.now < ms := by omega
      rw [sleep_of_due set due]
      by_cases mine : alarm.token = token
      · simp [ring, log, record, cancel, clearAlarm, assign, mine, soon]
      · simp [ring, log, record, cancel, clearAlarm, assign, mine, Ne.symm mine]
    · have late : ¬ (alarm.due : Int) - s.now < ms := by omega
      rw [sleep_of_early set early]
      by_cases mine : alarm.token = token <;> simp [mine, late]

theorem sleep_timeLeft (ms : Nat) : (s.sleep ms).timeLeft token =
    ((s.timeLeft token).filter fun (left : Int) => decide (ms ≤ left)).map (· - (ms : Int)) := by
  cases set : s.alarm with
  | none =>
    rw [sleep_of_quiet set, timeLeft_of_quiet set, timeLeft_of_quiet (by exact set)]
    rfl
  | some alarm =>
    rw [timeLeft_of_alarm set]
    rcases Nat.lt_or_ge alarm.due (s.now + ms) with due | early
    · have soon : ¬ (ms : Int) ≤ alarm.due - s.now := by omega
      rw [sleep_of_due set due, timeLeft_of_quiet rfl]
      by_cases mine : alarm.token = token <;> simp [mine, soon, Option.filter]
    · have late : (ms : Int) ≤ alarm.due - s.now := by omega
      rw [sleep_of_early set early, timeLeft_of_alarm (s := { s with now := s.now + ms }) set]
      by_cases mine : alarm.token = token
      · simp [mine, late, Option.filter]
        omega
      · simp [mine]

end Sleep

/-- Nothing is known of identities that are still to be handed out: no store is theirs, and no token of theirs
is cancelled or will be. -/
structure Tidy (s : Session) : Prop where
  unwritten : ∀ id ≥ s.issued, s.stores id = Store.new
  uncancelled : ∀ token ≥ s.issued, s.cancelled token = false
  unalarmed : ∀ token ≥ s.issued, s.timeLeft token = none

namespace Tidy
variable {s : Session}

theorem empty : Session.empty.Tidy := ⟨fun _ _ => rfl, fun _ _ => rfl, fun _ _ => rfl⟩

theorem congr {t : Session} (tidy : s.Tidy) (issued : t.issued = s.issued) (stores : t.stores = s.stores)
    (cancelled : t.cancelled = s.cancelled) (timeLeft : t.timeLeft = s.timeLeft) : t.Tidy := by
  constructor <;> intro id new <;> rw [issued] at new
  · rw [stores, tidy.unwritten id new]
  · rw [cancelled, tidy.uncancelled id new]
  · rw [timeLeft, tidy.unalarmed id new]

theorem issue (tidy : s.Tidy) : s.issue.2.Tidy :=
  ⟨fun id new => tidy.unwritten id (Nat.le_of_succ_le new),
    fun token new => tidy.uncancelled token (Nat.le_of_succ_le new),
    fun token new => tidy.unalarmed token (Nat.le_of_succ_le new)⟩

theorem putStore (tidy : s.Tidy) {context : Context} (known : s.HasStore context) (store : Store) :
    (s.putStore context store).Tidy := by
  refine ⟨fun id new => ?_, tidy.uncancelled, tidy.unalarmed⟩
  have apart : id ≠ context.store := Nat.ne_of_gt (Nat.lt_of_lt_of_le known new)
  exact (if_neg apart).trans (tidy.unwritten id new)

theorem cancel (tidy : s.Tidy) {token : TokenId} (known : token < s.issued) : (s.cancel token).Tidy := by
  refine ⟨tidy.unwritten, fun other new => ?_, tidy.unalarmed⟩
  have apart : other ≠ token := Nat.ne_of_gt (Nat.lt_of_lt_of_le known new)
  exact (if_neg apart).trans (tidy.uncancelled other new)

theorem sleep (tidy : s.Tidy) (ms : Nat) : (s.sleep ms).Tidy := by
  constructor <;> intro token new <;> rw [ge_iff_le, sleep_issued] at new
  · rw [sleep_stores, tidy.unwritten token new]
  · rw [sleep_cancelled, tidy.uncancelled token new, tidy.unalarmed token new]
    rfl
  · rw [sleep_timeLeft, tidy.unalarmed token new]
    rfl

end Tidy

end TaintTracking.Session
