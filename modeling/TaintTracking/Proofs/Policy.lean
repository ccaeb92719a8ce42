import TaintTracking.Policy
import TaintTracking.Proofs.Session.Trail
import TaintTracking.Proofs.Store.Trust

/-!
What consulting a policy does to the session, and when the contextual policy refuses: exactly if the
function is sensitive and some variable is untrusted.
-/

namespace TaintTracking

/-- What a consultation leaves on the trail: itself, and log entries. -/
def Event.IsCheck (descriptor : Descriptor) (store : Store) (verdict : Except TrustError Bool) :
    Event → Prop
  | .consulted asked seen answer => asked = descriptor ∧ seen = store ∧ answer = verdict
  | .logged _ => True
  | _ => False

namespace Policy
variable (policy : Policy) (descriptor : Descriptor) (context : Context) (s : Session)

/-- A consultation is counted and leaves its trace; nothing else in the session changes. -/
theorem consult_session : ∃ consultations trail,
    (policy.consult descriptor context s).2 = { s with consultations, trail } := by
  cases policy with
  | contextual defaultTrusted =>
    simp only [consult, logVerdict]
    split <;> exact ⟨s.consultations, _, rfl⟩
  | scripted id label answer tag => exact ⟨_, _, rfl⟩

@[simp] theorem consult_stores : (policy.consult descriptor context s).2.stores = s.stores := by
  obtain ⟨consultations, trail, after⟩ := policy.consult_session descriptor context s
  rw [after]

@[simp] theorem consult_issued : (policy.consult descriptor context s).2.issued = s.issued := by
  obtain ⟨consultations, trail, after⟩ := policy.consult_session descriptor context s
  rw [after]

theorem consult_records :
    s.Records (Event.IsCheck descriptor (s.storeOf context) (policy.consult descriptor context s).1)
      (policy.consult descriptor context s).2 := by
  cases policy with
  | contextual defaultTrusted =>
    simp only [consult, logVerdict]
    split
    · exact (Session.Records.of_trail_cons (Session.log_trail ..) trivial).trans
        (.of_trail_cons (Session.record_trail ..) ⟨rfl, rfl, rfl⟩)
    · exact .of_trail_cons (Session.record_trail ..) ⟨rfl, rfl, rfl⟩
  | scripted id label answer tag =>
    exact .of_trail_cons (Session.record_trail ..) ⟨rfl, rfl, rfl⟩

/-- A consultation comes last on the trail, after the log entries that it makes. -/
theorem consult_trail : ∃ entries : List Log.Entry, (policy.consult descriptor context s).2.trail =
    .consulted descriptor (s.storeOf context) (policy.consult descriptor context s).1 ::
      entries.map .logged ++ s.trail := by
  cases policy with
  | contextual defaultTrusted =>
    simp only [consult, logVerdict]
    split
    · exact ⟨[.blockedSensitive descriptor.skill descriptor.function], rfl⟩
    · exact ⟨[], rfl⟩
  | scripted id label answer tag => exact ⟨[], rfl⟩

/-- A policy that agrees leaves its consultation on the trail and nothing else. -/
theorem consult_trail_of_agrees {policy : Policy} {descriptor : Descriptor} {context : Context}
    {s : Session} {verdict : Bool}
    (agrees : (policy.consult descriptor context s).1 = .ok verdict) :
    (policy.consult descriptor context s).2.trail =
      .consulted descriptor (s.storeOf context) (.ok verdict) :: s.trail := by
  cases policy with
  | contextual defaultTrusted =>
    simp only [consult] at agrees ⊢
    rw [agrees]
    rfl
  | scripted id label answer tag =>
    simp only [consult] at agrees ⊢
    rw [agrees]
    rfl

/-- Without an answer of its own for prompts, a policy is consulted on the variables again. -/
theorem consultRendered_cases (rendered : String) :
    policy.consultRendered descriptor context rendered s =
        ((policy.consult descriptor context s).1.map fun trusted => ⟨rendered, trusted⟩,
          (policy.consult descriptor context s).2) ∨
      ∃ id tagged, policy.consultRendered descriptor context rendered s =
        (tagged, account id descriptor (s.storeOf context) (tagged.map (·.trusted)) s) := by
  unfold consultRendered
  split
  next id label answer tag => exact .inr ⟨id, _, rfl⟩
  next => exact .inl rfl

@[simp] theorem consultRendered_stores (rendered : String) :
    (policy.consultRendered descriptor context rendered s).2.stores = s.stores := by
  rcases policy.consultRendered_cases descriptor context s rendered with inherited | ⟨id, tagged, own⟩
  · rw [inherited, consult_stores]
  · rw [own]; rfl

@[simp] theorem consultRendered_issued (rendered : String) :
    (policy.consultRendered descriptor context rendered s).2.issued = s.issued := by
  rcases policy.consultRendered_cases descriptor context s rendered with inherited | ⟨id, tagged, own⟩
  · rw [inherited, consult_issued]
  · rw [own]; rfl

theorem consultRendered_records (rendered : String) :
    s.Records (Event.IsCheck descriptor (s.storeOf context)
        ((policy.consultRendered descriptor context rendered s).1.map (·.trusted)))
      (policy.consultRendered descriptor context rendered s).2 := by
  rcases policy.consultRendered_cases descriptor context s rendered with inherited | ⟨id, tagged, own⟩
  · rw [inherited]
    have untagged : ∀ verdict : Except TrustError Bool,
        (verdict.map fun trusted => TaintedValue.mk rendered trusted).map (·.trusted) = verdict := by
      intro verdict
      cases verdict <;> rfl
    rw [untagged]
    exact policy.consult_records descriptor context s
  · rw [own]
    exact .of_trail_cons (Session.record_trail ..) ⟨rfl, rfl, rfl⟩

/-! The contextual policy. -/

theorem contextualVerdict_eq_error {defaultTrusted : Bool} {descriptor : Descriptor} {store : Store}
    {error : TrustError} :
    contextualVerdict defaultTrusted descriptor store = .error error ↔
      descriptor.isSensitive = true ∧ store.isAllTrusted = false ∧ error = blocked descriptor := by
  unfold contextualVerdict
  cases descriptor.isSensitive <;> cases store.isAllTrusted <;> simp [eq_comm]

theorem contextualVerdict_eq_ok {defaultTrusted : Bool} {descriptor : Descriptor} {store : Store}
    {verdict : Bool} :
    contextualVerdict defaultTrusted descriptor store = .ok verdict ↔
      (descriptor.isSensitive = true → store.isAllTrusted = true) ∧
        verdict = (store.isAllTrusted && defaultTrusted) := by
  unfold contextualVerdict
  cases descriptor.isSensitive <;> cases store.isAllTrusted <;> simp [eq_comm]

end Policy

end TaintTracking
