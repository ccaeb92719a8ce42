import TaintTracking.Proofs.Program.Simulation

/-!
Functions do not see the trail. Sessions that are alike but for some events on it stay so, whatever is
invoked in both.
-/

namespace TaintTracking

/-- The description of a context is that of its error. -/
def Context.Coherent (context : Context) : Prop :=
  context.description = (context.error.map (·.message)).getD ""

theorem Context.Coherent.clearError {context : Context} (coherent : context.Coherent)
    (clean : context.hasError = false) : context.clearError = context := by
  obtain ⟨run, store, error, description⟩ := context
  obtain rfl : error = none := Option.isNone_iff_eq_none.mp (by simpa [hasError] using clean)
  obtain rfl : description = "" := coherent
  rfl

theorem Context.coherent_share (context : Context) : context.share.Coherent := rfl

/-- The sessions are alike in all but the trail, and their trails in the events that are kept. -/
def Session.Alike (kept : Event → Bool) (s t : Session) : Prop :=
  ∃ trail, t = { s with trail } ∧ trail.filter kept = s.trail.filter kept

namespace Session.Alike
variable {kept : Event → Bool} {s t u : Session}

theorem refl (s : Session) : s.Alike kept s := ⟨s.trail, rfl, rfl⟩

theorem symm (alike : s.Alike kept t) : t.Alike kept s := by
  obtain ⟨trail, rfl, filtered⟩ := alike
  exact ⟨s.trail, rfl, filtered.symm⟩

theorem trans (first : s.Alike kept t) (second : t.Alike kept u) : s.Alike kept u := by
  obtain ⟨trail, rfl, filtered⟩ := first
  obtain ⟨later, rfl, filteredLater⟩ := second
  exact ⟨later, rfl, filteredLater.trans filtered⟩

theorem stores (alike : s.Alike kept t) : t.stores = s.stores := by
  obtain ⟨trail, rfl, -⟩ := alike
  rfl

theorem forced (alike : s.Alike kept t) : t.forced = s.forced := by
  obtain ⟨trail, rfl, -⟩ := alike
  rfl

theorem issued (alike : s.Alike kept t) : t.issued = s.issued := by
  obtain ⟨trail, rfl, -⟩ := alike
  rfl

theorem record (alike : s.Alike kept t) (event : Event) :
    (s.record event).Alike kept (t.record event) := by
  obtain ⟨trail, rfl, filtered⟩ := alike
  exact ⟨event :: trail, rfl, by rw [record_trail, List.filter_cons, List.filter_cons, filtered]⟩

/-- An event that is not kept makes no difference. -/
theorem drop (alike : s.Alike kept t) {event : Event} (dropped : kept event = false) :
    s.Alike kept (t.record event) := by
  obtain ⟨trail, rfl, filtered⟩ := alike
  exact ⟨event :: trail, rfl, by rw [List.filter_cons_of_neg (by simp [dropped]), filtered]⟩

theorem dropBoth (alike : s.Alike kept t) {event other : Event} (dropped : kept event = false)
    (otherDropped : kept other = false) : (s.record event).Alike kept (t.record other) :=
  ((refl s).drop dropped).symm.trans (alike.drop otherDropped)

theorem edit (alike : s.Alike kept t) (context : Context) (change : Store.Edit) :
    (s.edit context change).Alike kept (t.edit context change) := by
  obtain ⟨trail, rfl, filtered⟩ := alike
  exact ⟨trail, rfl, filtered⟩

theorem account (alike : s.Alike kept t) (id : PolicyId) (descriptor : Descriptor) (store : Store)
    (verdict : Except TrustError Bool) :
    (Policy.account id descriptor store verdict s).Alike kept
      (Policy.account id descriptor store verdict t) := by
  obtain ⟨trail, rfl, filtered⟩ := alike
  let counted := { s with consultations := assign s.consultations id (s.consultations id + 1) }
  have before : counted.Alike kept { counted with trail } := ⟨trail, rfl, filtered⟩
  exact before.record _

theorem sleep (alike : s.Alike kept t) (ms : Nat) : (s.sleep ms).Alike kept (t.sleep ms) := by
  obtain ⟨trail, rfl, filtered⟩ := alike
  simp only [Session.sleep]
  split
  next alarm _ =>
    split
    · let rung := { s with now := s.now + ms }.clearAlarm.cancel alarm.token
      have before : rung.Alike kept { rung with trail } := ⟨trail, rfl, filtered⟩
      exact before.record _
    · exact ⟨trail, rfl, filtered⟩
  next => exact ⟨trail, rfl, filtered⟩

end Session.Alike

/-- Sessions that are alike but for the events that are not kept, and the same contexts and tokens in
both. -/
def Simulation.upTo (kept : Event → Bool) : Simulation where
  sessions := Session.Alike kept
  contexts _ c c' := c' = c ∧ c.Coherent
  tokens _ token token' := token' = token
  guards _ := True
  held _ := True
  contexts_mono _ same := same
  tokens_mono _ same := same
  error same := congrArg Context.error same.1
  description same := congrArg Context.description same.1
  fail same error := ⟨congrArg (·.fail error) same.1, rfl⟩
  clearError same := ⟨congrArg Context.clearError same.1, rfl⟩
  storeOf := by
    rintro s _ c _ ⟨trail, rfl, -⟩ ⟨rfl, -⟩
    rfl
  edit := by
    rintro s _ c _ alike ⟨rfl, -⟩ change
    exact alike.edit _ change
  newContext := by
    rintro s _ ⟨trail, rfl, filtered⟩ store
    exact ⟨⟨rfl, rfl⟩, trail, rfl, filtered⟩
  cloneContext := by
    rintro s _ c _ ⟨trail, rfl, filtered⟩ ⟨rfl, coherent⟩
    exact ⟨⟨rfl, coherent⟩, trail, rfl, filtered⟩
  newToken := by
    rintro s _ ⟨trail, rfl, filtered⟩
    exact ⟨rfl, trail, rfl, filtered⟩
  isCancelled := by
    rintro s _ token _ ⟨trail, rfl, -⟩ rfl
    rfl
  cancel := by
    rintro s _ token _ ⟨trail, rfl, filtered⟩ rfl
    exact ⟨trail, rfl, filtered⟩
  cancelHeld := by
    rintro s _ token ⟨trail, rfl, filtered⟩ -
    exact ⟨trail, rfl, filtered⟩
  sleep alike := alike.sleep
  setForce := by
    rintro s _ ⟨trail, rfl, filtered⟩ flag force
    exact ⟨trail, rfl, filtered⟩
  record alike := alike.record
  forcesUntrusted := by
    rintro s _ guard ⟨trail, rfl, -⟩ -
    rfl
  answersAlike := by
    rintro s _ guard ⟨trail, rfl, -⟩ -
    exact Policy.AnswersAlike.of_eq rfl guard.policy
  account alike := alike.account

/-- The same result, in sessions that are alike but for the events that are not kept. -/
def Session.Agree {α : Type} (kept : Event → Bool) (out out' : α × Session) : Prop :=
  out'.1 = out.1 ∧ out.2.Alike kept out'.2

namespace Session.Agree
variable {α : Type} {kept : Event → Bool} {out out' out'' : α × Session}

theorem trans (first : Agree kept out out') (second : Agree kept out' out'') : Agree kept out out'' :=
  ⟨second.1.trans first.1, first.2.trans second.2⟩

/-- Where the one end is known, the other is known up to the events that are not kept. -/
theorem exists_eq {result : α} {s : Session} (agree : Agree kept (result, s) out) :
    ∃ t, out = (result, t) ∧ s.Alike kept t :=
  ⟨out.2, Prod.ext agree.1 rfl, agree.2⟩

end Session.Agree

section UpTo
variable {kept : Event → Bool} {s t : Session} (alike : s.Alike kept t)
include alike

theorem SkillFunction.invoke_agree (function : SkillFunction) {context : Context}
    (coherent : context.Coherent) (token : TokenId) :
    Session.Agree kept (function.invoke context token s) (function.invoke context token t) ∧
      (function.invoke context token s).1.Coherent := by
  have returns := function.invoke_simulates (Simulation.upTo kept)
    (function.everyGuard_of_forall fun _ => True.intro)
    (function.holdsOnly_of_forall fun _ => True.intro) alike ⟨rfl, coherent⟩
    (show token = token from rfl)
  exact ⟨⟨returns.1.1, returns.2⟩, returns.1.2⟩

section Scope
variable {n : Nat} {scope : Scope n} (coherent : ∀ i, (scope i).Coherent)
include coherent

theorem Action.perform_agree (action : Action n) :
    Session.Agree kept (action.perform scope none s).2 (action.perform scope none t).2 ∧
      (action.perform scope none t).1 = (action.perform scope none s).1 ∧
      ∀ i, ((action.perform scope none s).2.1 i).Coherent := by
  obtain ⟨answer, scopes, later⟩ := Simulation.perform
    (show (Simulation.upTo kept).sessions s t from alike) (fun i => ⟨rfl, coherent i⟩) .none action
    (action.holdsOnly_of_forall fun _ => True.intro)
  exact ⟨⟨funext fun i => (scopes i).1, later⟩, answer, fun i => (scopes i).2⟩

theorem Origin.create_agree (origin : Origin n) :
    Session.Agree kept (origin.create scope s) (origin.create scope t) ∧
      (origin.create scope s).1.Coherent := by
  obtain ⟨new, later⟩ := Simulation.create
    (show (Simulation.upTo kept).sessions s t from alike) (fun i => ⟨rfl, coherent i⟩) origin
  exact ⟨⟨new.1, later⟩, new.2⟩

/-- A program that gives a text gives the same one. -/
theorem Program.run_agree (program : Program .text n) (token : Option TokenId) :
    Session.Agree kept (program.run scope token s) (program.run scope token t) := by
  have given : Option.Rel (fun token token' => token' = token) token token := by
    cases token with
    | none => exact .none
    | some token => exact .some rfl
  have ends := program.run_simulates (Simulation.upTo kept)
    (program.everyGuard_of_forall fun _ => True.intro)
    (program.holdsOnly_of_forall fun _ => True.intro) alike (fun i => ⟨rfl, coherent i⟩) given
  obtain ⟨cause, u, u', ran, ran', later⟩ | ⟨output, output', u, u', ran, ran', same, later⟩ :=
    ends.cases
  · rw [ran, ran']
    exact ⟨rfl, later⟩
  · rw [ran, ran']
    exact ⟨congrArg Except.ok same, later⟩

end Scope

end UpTo

theorem Scope.coherent_ofContext {context : Context} (coherent : context.Coherent) {n : Nat}
    (i : Fin n) : (Scope.ofContext context i).Coherent := coherent

theorem Scope.coherent_push {n : Nat} {scope : Scope n} (coherent : ∀ i, (scope i).Coherent)
    {context : Context} (new : context.Coherent) (i : Fin (n + 1)) : (scope.push context i).Coherent := by
  unfold Scope.push
  split
  · exact coherent _
  · exact new

end TaintTracking
