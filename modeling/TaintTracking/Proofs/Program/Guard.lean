import TaintTracking.Program.Run
import TaintTracking.Proofs.Policy

/-!
What the guard of a function does around its callables: consulting leaves the stores alone, and
letting an output in writes to the store of the caller only.
-/

namespace TaintTracking

namespace Guard
variable {guard : Guard} {caller : Context} {s t : Session}

theorem stores_of_consult {verdict : Except TrustError Bool}
    (consulted : guard.consult caller s = (verdict, t)) : t.stores = s.stores := by
  have same := guard.policy.consult_stores (guard.currentDescriptor s) caller s
  rwa [← Guard.consult, consulted] at same

theorem issued_of_consult {verdict : Except TrustError Bool}
    (consulted : guard.consult caller s = (verdict, t)) : t.issued = s.issued := by
  have same := guard.policy.consult_issued (guard.currentDescriptor s) caller s
  rwa [← Guard.consult, consulted] at same

theorem records_of_consult {verdict : Except TrustError Bool}
    (consulted : guard.consult caller s = (verdict, t)) :
    s.Records (Event.IsCheck (guard.currentDescriptor s) (s.storeOf caller) verdict) t := by
  have records := guard.policy.consult_records (guard.currentDescriptor s) caller s
  rwa [← Guard.consult, consulted] at records

theorem trail_of_consent {verdict : Bool} (consent : guard.consult caller s = (.ok verdict, t)) :
    t.trail = .consulted (guard.currentDescriptor s) (s.storeOf caller) (.ok verdict) :: s.trail := by
  have agrees : (guard.policy.consult (guard.currentDescriptor s) caller s).1 = .ok verdict :=
    congrArg Prod.fst consent
  have trail := Policy.consult_trail_of_agrees agrees
  rwa [← Guard.consult, consent] at trail

theorem consult_session (guard : Guard) (caller : Context) (s : Session) :
    ∃ consultations trail, (guard.consult caller s).2 = { s with consultations, trail } :=
  guard.policy.consult_session (guard.currentDescriptor s) caller s

theorem forcesUntrusted_of_consult {verdict : Except TrustError Bool}
    (consulted : guard.consult caller s = (verdict, t)) :
    guard.forcesUntrusted t = guard.forcesUntrusted s := by
  obtain ⟨consultations, trail, after⟩ := guard.consult_session caller s
  rw [consulted] at after
  rw [show t = { s with consultations, trail } from after]
  rfl

section Rendered
variable {rendered : String} {tagged : Except TrustError TaintedValue}
  (consulted : guard.consultRendered caller rendered s = (tagged, t))
include consulted

theorem stores_of_consultRendered : t.stores = s.stores := by
  have same := guard.policy.consultRendered_stores (guard.currentDescriptor s) caller s rendered
  rwa [← Guard.consultRendered, consulted] at same

theorem issued_of_consultRendered : t.issued = s.issued := by
  have same := guard.policy.consultRendered_issued (guard.currentDescriptor s) caller s rendered
  rwa [← Guard.consultRendered, consulted] at same

theorem records_of_consultRendered :
    s.Records (Event.IsCheck (guard.currentDescriptor s) (s.storeOf caller) (tagged.map (·.trusted))) t := by
  have records := guard.policy.consultRendered_records (guard.currentDescriptor s) caller s rendered
  rwa [← Guard.consultRendered, consulted] at records

end Rendered

/-! The contextual policy. -/

def IsContextual (guard : Guard) : Prop :=
  ∃ defaultTrusted, guard.policy = .contextual defaultTrusted

/-- The error with which the contextual policy refuses the function. -/
def blocked (guard : Guard) : TrustError :=
  .sensitiveOnUntrusted guard.descriptor.skill guard.descriptor.function

/-- The contextual policy does not look at the force flag. -/
theorem contextualVerdict_currentDescriptor (guard : Guard) (s : Session) (defaultTrusted : Bool)
    (store : Store) :
    Policy.contextualVerdict defaultTrusted (guard.currentDescriptor s) store =
      Policy.contextualVerdict defaultTrusted guard.descriptor store := rfl

section Contextual
variable {defaultTrusted : Bool} (policy : guard.policy = .contextual defaultTrusted)
include policy

theorem verdict_of_consult {verdict : Except TrustError Bool}
    (consulted : guard.consult caller s = (verdict, t)) :
    Policy.contextualVerdict defaultTrusted guard.descriptor (s.storeOf caller) = verdict := by
  rw [Guard.consult, policy] at consulted
  exact congrArg Prod.fst consulted

theorem verdict_of_consultRendered {rendered : String} {tagged : Except TrustError TaintedValue}
    (consulted : guard.consultRendered caller rendered s = (tagged, t)) :
    Policy.contextualVerdict defaultTrusted guard.descriptor (s.storeOf caller) =
      tagged.map (·.trusted) := by
  rw [Guard.consultRendered, policy] at consulted
  have answer : (Policy.contextualVerdict defaultTrusted guard.descriptor (s.storeOf caller)).map
      (fun trusted => TaintedValue.mk rendered trusted) = tagged := congrArg Prod.fst consulted
  rw [← answer]
  cases Policy.contextualVerdict defaultTrusted guard.descriptor (s.storeOf caller) <;> rfl

end Contextual

section Verdict
variable (contextual : guard.IsContextual)
include contextual

/-- The policy agrees to run a sensitive function only on a trusted context, and a verdict on an
untrusted one is false. -/
theorem agreed_of_consult {verdict : Bool} (consent : guard.consult caller s = (.ok verdict, t)) :
    (guard.descriptor.isSensitive = true → s.isTrusted caller = true) ∧
      (s.isTrusted caller = false → verdict = false) := by
  obtain ⟨defaultTrusted, policy⟩ := contextual
  obtain ⟨trusted, rfl⟩ := Policy.contextualVerdict_eq_ok.mp (verdict_of_consult policy consent)
  refine ⟨trusted, fun untrusted => ?_⟩
  rw [show (s.storeOf caller).isAllTrusted = false from untrusted, Bool.false_and]

theorem agreed_of_consultRendered {rendered : String} {prompt : TaintedValue}
    (tag : guard.consultRendered caller rendered s = (.ok prompt, t)) :
    (guard.descriptor.isSensitive = true → s.isTrusted caller = true) ∧
      (s.isTrusted caller = false → prompt.trusted = false) := by
  obtain ⟨defaultTrusted, policy⟩ := contextual
  have agreed : Policy.contextualVerdict defaultTrusted guard.descriptor (s.storeOf caller) =
      .ok prompt.trusted := verdict_of_consultRendered policy tag
  obtain ⟨trusted, verdict⟩ := Policy.contextualVerdict_eq_ok.mp agreed
  refine ⟨trusted, fun untrusted => ?_⟩
  rw [verdict, show (s.storeOf caller).isAllTrusted = false from untrusted, Bool.false_and]

theorem refused_of_consult {error : TrustError}
    (denial : guard.consult caller s = (.error error, t)) :
    guard.descriptor.isSensitive = true ∧ s.isTrusted caller = false ∧ error = guard.blocked := by
  obtain ⟨defaultTrusted, policy⟩ := contextual
  exact Policy.contextualVerdict_eq_error.mp (verdict_of_consult policy denial)

theorem refused_of_consultRendered {rendered : String} {error : TrustError}
    (denial : guard.consultRendered caller rendered s = (.error error, t)) :
    guard.descriptor.isSensitive = true ∧ s.isTrusted caller = false ∧ error = guard.blocked := by
  obtain ⟨defaultTrusted, policy⟩ := contextual
  exact Policy.contextualVerdict_eq_error.mp (verdict_of_consultRendered policy denial)

end Verdict

end Guard

end TaintTracking
