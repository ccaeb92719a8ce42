import TaintTracking.Pipeline.Basic
import TaintTracking.Proofs.Program.Guard

/-!
Cancellation by the clock. Main statement: while a run does nothing but let time pass, its token is
cancelled exactly if it was so beforehand or the delay is over.
-/

namespace TaintTracking

/-- When the token of a run is cancelled: before the run, after a delay in milliseconds, or both. -/
structure Cancellation where
  beforehand : Bool
  delay : Option Nat
  deriving DecidableEq, Repr

namespace Cancellation

def never : Cancellation := ⟨false, none⟩

/-- Whether the token is cancelled when the run has lasted so long. -/
def reached (cancellation : Cancellation) (elapsed : Nat) : Bool :=
  cancellation.beforehand || cancellation.delay.any (· < elapsed)

section Reached
variable {cancellation : Cancellation} {limit elapsed : Nat}

theorem reached_of_none (delay : cancellation.delay = none) :
    cancellation.reached elapsed = cancellation.beforehand := by
  simp [reached, delay]

theorem reached_of_le (delay : cancellation.delay = some limit) (early : elapsed ≤ limit) :
    cancellation.reached elapsed = cancellation.beforehand := by
  simp [reached, delay, Nat.not_lt.mpr early]

theorem reached_of_lt (delay : cancellation.delay = some limit) (past : limit < elapsed) :
    cancellation.reached elapsed = true := by
  simp [reached, delay, past]

@[simp] theorem reached_never (elapsed : Nat) : never.reached elapsed = false := rfl

/-- A token stays cancelled. -/
theorem reached_mono {early late : Nat} (later : early ≤ late)
    (reached : cancellation.reached early = true) : cancellation.reached late = true := by
  cases delay : cancellation.delay with
  | none => rw [reached_of_none delay] at reached ⊢; exact reached
  | some limit =>
    rcases Nat.lt_or_ge limit late with past | before
    · exact reached_of_lt delay past
    · rw [reached_of_le delay before]
      rwa [reached_of_le delay (Nat.le_trans later before)] at reached

end Reached

def cancelBeforehand (cancellation : Cancellation) (token : TokenId) (s : Session) : Session :=
  if cancellation.beforehand then s.cancel token else s

/-- Cancels the token, or sets the alarm that will. -/
def prepare (cancellation : Cancellation) (token : TokenId) (s : Session) : Session :=
  match cancellation.delay with
  | none => cancellation.cancelBeforehand token s
  | some delay => (cancellation.cancelBeforehand token s).setAlarm token delay

/-- Carries out a run under the cancellation. -/
def carryOut (cancellation : Cancellation) (token : TokenId) (run : Session → Context × Session)
    (s : Session) : Context × Session :=
  Pipeline.withTimeout cancellation.delay token run (cancellation.cancelBeforehand token s)

/-- A run under a cancellation is the run from the prepared session. -/
theorem view_carryOut (cancellation : Cancellation) (token : TokenId)
    (run : Session → Context × Session) (s : Session) :
    (cancellation.carryOut token run s).1 = (run (cancellation.prepare token s)).1 ∧
      (cancellation.carryOut token run s).2.stores = (run (cancellation.prepare token s)).2.stores := by
  unfold carryOut prepare Pipeline.withTimeout
  cases cancellation.delay <;> exact ⟨rfl, rfl⟩

end Cancellation

/-- What a run is subject to: a token with its cancellation, the time at which it began, and the first
of the force flags that nobody sets during the run. -/
structure Terms where
  token : TokenId
  cancellation : Cancellation
  start : Nat
  flag : FlagId

/-- The alarm that is to cancel the token, until the delay is over. -/
def Terms.pending (terms : Terms) (elapsed : Nat) : Option Alarm :=
  (terms.cancellation.delay.filter (elapsed ≤ ·)).map fun delay =>
    ⟨terms.token, terms.start + delay, delay⟩

/-- So much of the run is over. -/
structure Terms.Hold (terms : Terms) (elapsed : Nat) (s : Session) : Prop where
  now : s.now = terms.start + elapsed
  cancelled : s.isCancelled terms.token = terms.cancellation.reached elapsed
  alarm : s.alarm = terms.pending elapsed
  unset : ∀ flag ≥ terms.flag, s.forced flag = none

namespace Terms

section Pending
variable {terms : Terms} {limit elapsed : Nat}

theorem pending_of_none (delay : terms.cancellation.delay = none) : terms.pending elapsed = none := by
  simp [pending, delay]

theorem pending_of_le (delay : terms.cancellation.delay = some limit) (early : elapsed ≤ limit) :
    terms.pending elapsed = some ⟨terms.token, terms.start + limit, limit⟩ := by
  simp [pending, delay, early]

theorem pending_of_lt (delay : terms.cancellation.delay = some limit) (past : limit < elapsed) :
    terms.pending elapsed = none := by
  simp [pending, delay, past]

end Pending

namespace Hold
variable {terms : Terms} {elapsed : Nat} {s : Session}

theorem consult (hold : terms.Hold elapsed s) (guard : Guard) (context : Context) :
    terms.Hold elapsed (guard.consult context s).2 := by
  obtain ⟨consultations, trail, after⟩ := guard.consult_session context s
  rw [after]
  exact ⟨hold.now, hold.cancelled, hold.alarm, hold.unset⟩

/-- Letting an output in takes no time. -/
theorem settle (hold : terms.Hold elapsed s) (guard : Guard) (caller : Context)
    (verdict forced : Bool) (output : OutputShape) (result : output.Result) :
    terms.Hold elapsed (output.settle caller (verdict && !forced)
      (guard.complete output verdict forced s) result).2 := by
  cases output with
  | nothing =>
    cases verdict && !forced <;> exact ⟨hold.now, hold.cancelled, hold.alarm, hold.unset⟩
  | text => exact ⟨hold.now, hold.cancelled, hold.alarm, hold.unset⟩
  | context => exact ⟨hold.now, hold.cancelled, hold.alarm, hold.unset⟩

/-- Time passes, and an alarm that is due by then rings. -/
theorem sleep (hold : terms.Hold elapsed s) (ms : Nat) : terms.Hold (elapsed + ms) (s.sleep ms) := by
  have later : s.now + ms = terms.start + (elapsed + ms) := by rw [hold.now, Nat.add_assoc]
  have cancelled := hold.cancelled
  have alarm := hold.alarm
  cases delay : terms.cancellation.delay with
  | none =>
    rw [pending_of_none delay] at alarm
    rw [Cancellation.reached_of_none delay] at cancelled
    rw [Session.sleep_of_quiet alarm]
    exact ⟨later, cancelled.trans (Cancellation.reached_of_none delay).symm,
      alarm.trans (pending_of_none delay).symm, hold.unset⟩
  | some limit =>
    rcases Nat.lt_or_ge limit elapsed with past | pending
    · have still : limit < elapsed + ms := by omega
      rw [pending_of_lt delay past] at alarm
      rw [Cancellation.reached_of_lt delay past] at cancelled
      rw [Session.sleep_of_quiet alarm]
      exact ⟨later, cancelled.trans (Cancellation.reached_of_lt delay still).symm,
        alarm.trans (pending_of_lt delay still).symm, hold.unset⟩
    · rw [pending_of_le delay pending] at alarm
      rw [Cancellation.reached_of_le delay pending] at cancelled
      rcases Nat.lt_or_ge limit (elapsed + ms) with due | early
      · rw [Session.sleep_of_due alarm (by dsimp only; omega)]
        refine ⟨later, ?_, (pending_of_lt delay due).symm, hold.unset⟩
        rw [Cancellation.reached_of_lt delay due]
        exact if_pos rfl
      · rw [Session.sleep_of_early alarm (by dsimp only; omega)]
        exact ⟨later, cancelled.trans (Cancellation.reached_of_le delay early).symm,
          alarm.trans (pending_of_le delay early).symm, hold.unset⟩

end Hold

end Terms

/-- A session in which a run can begin: the token is not cancelled, no alarm is set, and no force flag from
the given one on has been set by hand. -/
structure Session.Ready (s : Session) (token : TokenId) (flag : FlagId) : Prop where
  uncancelled : s.isCancelled token = false
  quiet : s.alarm = none
  unset : ∀ other ≥ flag, s.forced other = none

theorem Session.ready_empty (token : TokenId) (flag : FlagId) : Session.empty.Ready token flag :=
  ⟨rfl, rfl, fun _ _ => rfl⟩

/-- At the beginning no time is over. -/
theorem Session.Ready.hold {s : Session} {token : TokenId} {flag : FlagId} (ready : s.Ready token flag)
    (cancellation : Cancellation) :
    Terms.Hold ⟨token, cancellation, s.now, flag⟩ 0 (cancellation.prepare token s) := by
  unfold Cancellation.prepare
  have now : (cancellation.cancelBeforehand token s).now = s.now := by
    unfold Cancellation.cancelBeforehand
    split <;> rfl
  have cancelled : (cancellation.cancelBeforehand token s).isCancelled token =
      cancellation.beforehand := by
    unfold Cancellation.cancelBeforehand
    split
    next asked => exact (if_pos rfl).trans asked.symm
    next unasked => exact ready.uncancelled.trans (Bool.not_eq_true _ ▸ unasked).symm
  have quiet : (cancellation.cancelBeforehand token s).alarm = none := by
    unfold Cancellation.cancelBeforehand
    split <;> exact ready.quiet
  have unset : ∀ other ≥ flag, (cancellation.cancelBeforehand token s).forced other = none := by
    unfold Cancellation.cancelBeforehand
    split <;> exact ready.unset
  cases delay : cancellation.delay with
  | none =>
    exact ⟨now, cancelled.trans (Cancellation.reached_of_none delay).symm,
      quiet.trans (Terms.pending_of_none delay).symm, unset⟩
  | some limit =>
    refine ⟨now, cancelled.trans (Cancellation.reached_of_le delay (Nat.zero_le _)).symm, ?_, unset⟩
    rw [Terms.pending_of_le delay (Nat.zero_le _), ← now]
    rfl

end TaintTracking
