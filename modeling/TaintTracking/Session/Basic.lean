import TaintTracking.Context
import TaintTracking.Descriptor
import TaintTracking.Log.Entry

/-!
A session is all that changes while functions run: the stores that contexts refer to, the clock and
the cancellation tokens, the force flags that were set by hand, and the trail of what happened.
Identities are numbers that are handed out once.
-/

namespace TaintTracking

abbrev TokenId := Nat

abbrev FlagId := Nat

abbrev PolicyId := Nat

/-- `assign f i value` gives `value` at `i`. -/
def assign {α : Type} (f : Nat → α) (i : Nat) (value : α) : Nat → α :=
  fun j => if j = i then value else f j

/-- Cancels a token once the clock has passed `due`. -/
structure Alarm where
  token : TokenId
  due : Nat
  delay : Nat
  deriving DecidableEq, Repr

/-- The callable of a function that was entered. -/
inductive Role where
  | body
  | renderer
  | backend
  deriving DecidableEq, Repr

/-- Stores are given as they were at the moment. An output is let in with the verdict of the policy and
the force flag that decide its trust. -/
inductive Event where
  | consulted (descriptor : Descriptor) (store : Store) (verdict : Except TrustError Bool)
  | entered (role : Role) (descriptor : Descriptor) (store : Store)
  | completed (descriptor : Descriptor) (output : OutputShape) (verdict forced : Bool)
  | noted (text : String)
  | logged (entry : Log.Entry)

/-- The trail holds the latest event first. A force flag is `none` as long as nobody has set it. -/
structure Session where
  stores : StoreId → Store
  issued : Nat
  now : Nat
  cancelled : TokenId → Bool
  alarm : Option Alarm
  forced : FlagId → Option Bool
  consultations : PolicyId → Nat
  trail : List Event

namespace Session

def empty : Session where
  stores _ := Store.new
  issued := 0
  now := 0
  cancelled _ := false
  alarm := none
  forced _ := none
  consultations _ := 0
  trail := []

/-- Hands out a number that no identity has. -/
def issue (s : Session) : Nat × Session := (s.issued, { s with issued := s.issued + 1 })

def record (s : Session) (event : Event) : Session := { s with trail := event :: s.trail }

def log (s : Session) (entry : Log.Entry) : Session := s.record (.logged entry)

/-! Stores and contexts. -/

def storeOf (s : Session) (context : Context) : Store := s.stores context.store

def putStore (s : Session) (context : Context) (store : Store) : Session :=
  { s with stores := assign s.stores context.store store }

def edit (s : Session) (context : Context) (edit : Store.Edit) : Session :=
  s.putStore context ((s.storeOf context).edit edit)

def view (s : Session) (context : Context) : Snapshot :=
  ⟨s.storeOf context, context.error, context.description⟩

def isTrusted (s : Session) (context : Context) : Bool := (s.storeOf context).isAllTrusted

/-- A new run on a store of its own. -/
def newContext (s : Session) (store : Store) : Context × Session :=
  let (id, s) := s.issue
  let context := Context.new id id
  (context, s.putStore context store)

/-- The same run and error on a copy of the store. -/
def cloneContext (s : Session) (context : Context) : Context × Session :=
  let (id, s) := s.issue
  let copy := { context with store := id }
  (copy, s.putStore copy (s.storeOf context))

/-! Time and cancellation. -/

def newToken (s : Session) : TokenId × Session := s.issue

def isCancelled (s : Session) (token : TokenId) : Bool := s.cancelled token

def cancel (s : Session) (token : TokenId) : Session :=
  { s with cancelled := assign s.cancelled token true }

def setAlarm (s : Session) (token : TokenId) (delay : Nat) : Session :=
  { s with alarm := some ⟨token, s.now + delay, delay⟩ }

def clearAlarm (s : Session) : Session := { s with alarm := none }

def ring (s : Session) (alarm : Alarm) : Session :=
  (s.clearAlarm.cancel alarm.token).log (.cancellingRun alarm.delay)

/-- Lets time pass; an alarm rings when the clock goes past it. -/
def sleep (s : Session) (ms : Nat) : Session :=
  let s := { s with now := s.now + ms }
  match s.alarm with
  | some alarm => if alarm.due < s.now then s.ring alarm else s
  | none => s

/-! Force flags. -/

def setForce (s : Session) (flag : FlagId) (force : Bool) : Session :=
  { s with forced := assign s.forced flag (some force) }

end Session

end TaintTracking
