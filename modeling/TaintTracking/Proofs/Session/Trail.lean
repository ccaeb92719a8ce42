import TaintTracking.Proofs.Session.Effects

/-!
The trail only grows. A statement about the events between two moments says what every event
recorded in between is like.
-/

namespace TaintTracking.Session

/-- From `s` to `t` the trail grew, and every new event is one of `p`. -/
def Records (p : Event → Prop) (s t : Session) : Prop :=
  ∃ events, t.trail = events ++ s.trail ∧ ∀ event ∈ events, p event

namespace Records
variable {p q : Event → Prop} {s t u : Session}

theorem of_trail_eq (same : t.trail = s.trail) : Records p s t :=
  ⟨[], same, by simp⟩

theorem refl (s : Session) : Records p s s := of_trail_eq rfl

theorem of_trail_cons {event : Event} (recorded : t.trail = event :: s.trail) (holds : p event) :
    Records p s t :=
  ⟨[event], recorded, by simpa using holds⟩

theorem trans (first : Records p s t) (second : Records p t u) : Records p s u := by
  obtain ⟨early, earlyTrail, earlyHolds⟩ := first
  obtain ⟨late, lateTrail, lateHolds⟩ := second
  refine ⟨late ++ early, ?_, ?_⟩
  · rw [lateTrail, earlyTrail, List.append_assoc]
  · intro event member
    rcases List.mem_append.mp member with inLate | inEarly
    · exact lateHolds event inLate
    · exact earlyHolds event inEarly

theorem mono (weaker : ∀ event, p event → q event) (records : Records p s t) : Records q s t := by
  obtain ⟨events, trail, holds⟩ := records
  exact ⟨events, trail, fun event member => weaker event (holds event member)⟩

end Records

end TaintTracking.Session
