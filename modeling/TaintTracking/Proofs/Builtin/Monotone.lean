import TaintTracking.Proofs.Builtin.Job

/-!
Trust decides what is refused, never what is computed. Main statement: a job under more permissive settings
does all that a stricter one does, with the same contents and with no less trust, and goes on where the
stricter one is refused a function.
-/

namespace TaintTracking

/-- The names of the variables with their contents. -/
def Store.contents (store : Store) : List (String × String) :=
  store.slots.map fun slot => (slot.name, slot.value.content)

namespace Builtin

/-- The second configuration is at least as permissive. -/
structure Relaxes (strict lenient : TrustConfig) : Prop where
  default : strict.defaultTrusted = true → lenient.defaultTrusted = true
  sensitive : ∀ builtin, isSensitive lenient builtin = true → isSensitive strict builtin = true
  forced : ∀ builtin, forcesUntrusted lenient builtin = true → forcesUntrusted strict builtin = true

namespace State

/-- The texts are the same, and what the first state trusts, so does the second. -/
structure Below (strict lenient : State) : Prop where
  content : strict.content = lenient.content
  trusted : strict.trusted = true → lenient.trusted = true
  echoContent : strict.echo.map (·.content) = lenient.echo.map (·.content)
  echoTrusted : ∀ value ∈ strict.echo, value.trusted = true → value ∈ lenient.echo

/-- A refusal leaves the variables as they are. -/
theorem store_step_of_refused {state : State} {trust : TrustConfig} {builtin : Builtin}
    (going : state.refusal = none) (refused : (state.step trust builtin).refusal ≠ none) :
    (state.step trust builtin).store = state.store := by
  cases blocked : state.blocks trust builtin with
  | true => rw [step_of_blocked going blocked]; rfl
  | false => exact absurd (step_refusal_eq_none_iff.mpr ⟨going, blocked⟩) refused

namespace Below
variable {strict lenient : State} {trust trust' : TrustConfig}

theorem blocks (below : strict.Below lenient) (relaxes : Relaxes trust trust') {builtin : Builtin}
    (allowed : strict.blocks trust builtin = false) : lenient.blocks trust' builtin = false := by
  simp only [State.blocks, Bool.and_eq_false_iff, Bool.not_eq_false'] at allowed ⊢
  rcases allowed with harmless | trusted
  · refine .inl (Bool.eq_false_iff.mpr fun sensitive => ?_)
    exact Bool.eq_false_iff.mp harmless (relaxes.sensitive builtin sensitive)
  · exact .inr (below.trusted trusted)

theorem after (below : strict.Below lenient) (relaxes : Relaxes trust trust') (builtin : Builtin) :
    (strict.after trust builtin).Below (lenient.after trust' builtin) := by
  unfold State.after
  split
  next => exact ⟨rfl, id, rfl, fun value kept _ => nomatch kept⟩
  next =>
    refine ⟨congrArg builtin.rewrite below.content, ?_, ?_, ?_⟩
    · simp only [Bool.and_eq_true, Bool.not_eq_true']
      rintro ⟨⟨trusted, default⟩, unforced⟩
      refine ⟨⟨below.trusted trusted, relaxes.default default⟩, Bool.eq_false_iff.mpr fun forced => ?_⟩
      exact Bool.eq_false_iff.mp unforced (relaxes.forced builtin forced)
    · dsimp only
      split
      next => exact congrArg some below.content
      next => exact below.echoContent
    · dsimp only
      split
      next =>
        intro value kept trusted
        obtain rfl := Option.mem_some_iff.mp kept
        have both := below.trusted trusted
        rw [Option.mem_some_iff, TaintedValue.mk.injEq]
        exact ⟨below.content.symm, both.trans trusted.symm⟩
      next => exact below.echoTrusted

/-- What the stricter run was not refused, the other is not either, and they keep together. -/
theorem run (below : strict.Below lenient) (relaxes : Relaxes trust trust')
    (going : lenient.refusal = none) {builtins : List Builtin}
    (unrefused : (strict.run trust builtins).refusal = none) :
    (lenient.run trust' builtins).refusal = none ∧
      (strict.run trust builtins).Below (lenient.run trust' builtins) := by
  induction builtins generalizing strict lenient with
  | nil => exact ⟨going, below⟩
  | cons builtin builtins ih =>
    have next : (strict.step trust builtin).refusal = none := going_of_run unrefused
    obtain ⟨before, allowed⟩ := step_refusal_eq_none_iff.mp next
    rw [run_cons, step_of_allowed before allowed] at unrefused
    rw [run_cons, run_cons, step_of_allowed before allowed,
      step_of_allowed going (below.blocks relaxes allowed)]
    exact ih (below.after relaxes builtin) after_refusal unrefused

/-- The variables have the same names and contents. -/
theorem contents (below : strict.Below lenient) : strict.store.contents = lenient.store.contents := by
  have echo := congrArg (Option.map (Prod.mk echoName)) below.echoContent
  rw [Option.map_map, Option.map_map] at echo
  rw [Store.contents, Store.contents, map_slots_store, map_slots_store, below.content]
  exact congrArg (_ :: ·.toList) echo

/-- A variable that is trusted in the first state is in the second, and is trusted there. -/
theorem mem_slots (below : strict.Below lenient) {slot : Slot} (member : slot ∈ strict.store.slots)
    (trusted : slot.value.trusted = true) : slot ∈ lenient.store.slots := by
  rw [slots_store, List.mem_cons, Option.mem_toList, Option.map_eq_some_iff] at member ⊢
  rcases member with rfl | ⟨value, kept, rfl⟩
  · have both := below.trusted trusted
    rw [below.content, both, show strict.trusted = true from trusted]
    exact .inl rfl
  · exact .inr ⟨value, below.echoTrusted value kept trusted, rfl⟩

end Below

end State

namespace Job

/-- The jobs are the same but for trust, and the second one's settings are at least as permissive. -/
structure Relaxes (strict lenient : Job) : Prop where
  names : lenient.names = strict.names
  limits : lenient.limits = strict.limits
  cancellation : lenient.cancellation = strict.cancellation
  content : lenient.input.content = strict.input.content
  trusted : strict.input.trusted = true → lenient.input.trusted = true
  trust : Builtin.Relaxes strict.trust lenient.trust

namespace Relaxes
variable {strict lenient : Job} (relaxes : strict.Relaxes lenient)
include relaxes

theorem builtins : lenient.builtins = strict.builtins := congrArg named relaxes.names

theorem inTime_iff {k : Nat} : lenient.inTime k ↔ strict.inTime k := by
  rw [inTime, inTime, relaxes.cancellation, relaxes.builtins]

theorem below {k : Nat} (unrefused : (strict.stateAt k).refusal = none) :
    (lenient.stateAt k).refusal = none ∧ (strict.stateAt k).Below (lenient.stateAt k) := by
  have begins : (State.ofInput strict.input).Below (.ofInput lenient.input) :=
    ⟨relaxes.content.symm, relaxes.trusted, rfl, fun value kept _ => nomatch kept⟩
  rw [stateAt, relaxes.builtins]
  exact begins.run relaxes.trust rfl unrefused

theorem exists_build {flag : FlagId} {pipeline : Pipeline} (built : strict.build flag = .ok pipeline) :
    ∃ pipeline', lenient.build flag = .ok pipeline' := by
  obtain ⟨known, bounded, -⟩ := build_eq_ok_iff.mp built
  refine ⟨_, build_eq_ok_iff.mpr ⟨?_, ?_, rfl⟩⟩
  · rwa [relaxes.names]
  · rwa [relaxes.builtins, relaxes.limits]

section Built
variable {flag : FlagId} {token : TokenId} {s : Session} {pipeline pipeline' : Pipeline}
  (ready : s.Ready token flag) (built : strict.build flag = .ok pipeline)
  (built' : lenient.build flag = .ok pipeline')
include ready built built'

theorem starts {k : Nat} (starts : (strict.run pipeline token s).Starts k) :
    (lenient.run pipeline' token s).Starts k := by
  obtain ⟨inside, unrefused, early⟩ := (strict.starts_iff built ready).mp starts
  refine (lenient.starts_iff built' ready).mpr ⟨?_, (relaxes.below unrefused).1, ?_⟩
  · rwa [relaxes.builtins]
  · rwa [relaxes.inTime_iff]

/-- Where the stricter job is refused nothing, both end at the same boundary. -/
theorem same_end (clean : (strict.perform pipeline token s).1.isTrustViolation = false) :
    ∃ k, (strict.stateAt k).refusal = none ∧
      (strict.perform pipeline token s).2.view (strict.perform pipeline token s).1 =
        (strict.stateAt k).ending k strict.builtins.length ∧
      (lenient.perform pipeline' token s).2.view (lenient.perform pipeline' token s).1 =
        (lenient.stateAt k).ending k strict.builtins.length := by
  obtain ⟨k, -, -, before, -, shown⟩ := strict.exists_end built ready
  obtain ⟨k', -, -, before', -, shown'⟩ := lenient.exists_end built' ready
  rw [State.isTrustViolation_of_view shown, Option.isSome_eq_false_iff, Option.isNone_iff_eq_none]
    at clean
  have same : k' = k := by
    rcases Nat.lt_trichotomy k' k with earlier | same | later
    · have begun := relaxes.starts ready built built' ((before k').mpr earlier)
      exact absurd ((before' k').mp begun) (Nat.lt_irrefl k')
    · exact same
    · obtain ⟨inside, -, early⟩ := (lenient.starts_iff built' ready).mp ((before' k).mpr later)
      rw [relaxes.builtins] at inside
      have begun := (strict.starts_iff built ready).mpr ⟨inside, clean, relaxes.inTime_iff.mp early⟩
      exact absurd ((before k).mp begun) (Nat.lt_irrefl k)
  rw [same, relaxes.builtins] at shown'
  exact ⟨k, clean, shown, shown'⟩

/-- Where the stricter job is refused a function, the other gets as far, and with the same contents. -/
theorem reaches_refusal (refused : (strict.perform pipeline token s).1.isTrustViolation = true) :
    ∃ k, (strict.run pipeline token s).EndsAt (k + 1) .failed ∧
      (∀ j, (strict.run pipeline token s).Starts j ↔ j ≤ k) ∧
      (∀ j ≤ k, (lenient.run pipeline' token s).Starts j) ∧
      (((lenient.run pipeline' token s).sessionAt k).storeOf
          ((lenient.run pipeline' token s).contextAt k)).contents =
        ((strict.perform pipeline token s).2.storeOf (strict.perform pipeline token s).1).contents := by
  obtain ⟨last, ending, inside, before, ends, shown⟩ := strict.exists_end built ready
  rw [State.isTrustViolation_of_view shown] at refused
  cases last with
  | zero => exact absurd refused Bool.false_ne_true
  | succ k =>
    have last := (before k).mpr (Nat.lt_succ_self k)
    obtain ⟨within, unrefused, -⟩ := (strict.starts_iff built ready).mp last
    have boundary := strict.view_boundary built ready inside fun j earlier =>
      ((before j).mpr earlier).2 j (Nat.le_refl j)
    obtain rfl := ends.eq_failed ((State.hasError_of_view boundary).trans refused)
    have begun (j : Nat) (earlier : j ≤ k) : (lenient.run pipeline' token s).Starts j :=
      relaxes.starts ready built built' ((before j).mpr (Nat.lt_succ_of_le earlier))
    refine ⟨k, ends, fun j => (before j).trans Nat.lt_succ_iff, begun, ?_⟩
    have there := lenient.view_boundary built' ready (relaxes.builtins ▸ Nat.le_of_lt within)
      fun j earlier => (begun k (Nat.le_refl k)).2 j (Nat.le_of_lt earlier)
    have unchanged : (strict.stateAt (k + 1)).store = (strict.stateAt k).store := by
      rw [stateAt_succ within] at refused ⊢
      exact State.store_step_of_refused unrefused (Option.isSome_iff_ne_none.mp refused)
    have found := congrArg Snapshot.store there
    have left := (congrArg Snapshot.store shown).trans unchanged
    calc (((lenient.run pipeline' token s).sessionAt k).storeOf
          ((lenient.run pipeline' token s).contextAt k)).contents
        = (lenient.stateAt k).store.contents := congrArg Store.contents found
      _ = (strict.stateAt k).store.contents := (relaxes.below unrefused).2.contents.symm
      _ = _ := (congrArg Store.contents left).symm

end Built

end Relaxes

/-- A job under settings that are at least as permissive is built like the stricter one. If the stricter
one is refused nothing, neither is the other, and they end with the same error and the same contents, and
whatever is trusted stays so. Else the other gets as far as the refusal, and finds there the contents with
which the stricter one ends. -/
theorem relaxing_keeps {strict lenient : Job} {flag : FlagId} {token : TokenId} {s : Session}
    {pipeline : Pipeline} (relaxes : strict.Relaxes lenient) (ready : s.Ready token flag)
    (built : strict.build flag = .ok pipeline) :
    ∃ pipeline', lenient.build flag = .ok pipeline' ∧
      let result := strict.perform pipeline token s
      let result' := lenient.perform pipeline' token s
      let run := strict.run pipeline token s
      let run' := lenient.run pipeline' token s
      (result.1.isTrustViolation = false →
        result'.1.isTrustViolation = false ∧ result'.1.error = result.1.error ∧
          (result'.2.storeOf result'.1).contents = (result.2.storeOf result.1).contents ∧
          ∀ slot ∈ (result.2.storeOf result.1).slots, slot.value.trusted = true →
            slot ∈ (result'.2.storeOf result'.1).slots) ∧
      (result.1.isTrustViolation = true →
        ∃ k, run.EndsAt (k + 1) .failed ∧ (∀ j, run.Starts j ↔ j ≤ k) ∧ (∀ j ≤ k, run'.Starts j) ∧
          ((run'.sessionAt k).storeOf (run'.contextAt k)).contents =
            (result.2.storeOf result.1).contents) := by
  obtain ⟨pipeline', built'⟩ := relaxes.exists_build built
  refine ⟨pipeline', built', fun clean => ?_, relaxes.reaches_refusal ready built built'⟩
  obtain ⟨k, unrefused, shown, shown'⟩ := relaxes.same_end ready built built' clean
  obtain ⟨unrefused', below⟩ := relaxes.below unrefused
  have store : (strict.perform pipeline token s).2.storeOf (strict.perform pipeline token s).1 =
      (strict.stateAt k).store := congrArg Snapshot.store shown
  have store' : (lenient.perform pipeline' token s).2.storeOf (lenient.perform pipeline' token s).1 =
      (lenient.stateAt k).store := congrArg Snapshot.store shown'
  have sameError : (lenient.stateAt k).endError k strict.builtins.length =
      (strict.stateAt k).endError k strict.builtins.length := by
    rw [State.endError, State.endError, unrefused, unrefused']
  refine ⟨?_, ?_, ?_, fun slot member trusted => ?_⟩
  · rw [State.isTrustViolation_of_view shown', unrefused']
    rfl
  · exact (congrArg Snapshot.error shown').trans (sameError.trans (congrArg Snapshot.error shown).symm)
  · rw [store, store']
    exact below.contents.symm
  · rw [store] at member
    rw [store']
    exact below.mem_slots member trusted

/-- Publishes a text that an output replaced. -/
def publishUpper (defaultTrusted : Bool) : Job :=
  ⟨["echo", "upper", "publish", "fetch"], ⟨4⟩, ⟨defaultTrusted, []⟩, ⟨false, some 30⟩, ⟨"page", true⟩⟩

theorem publishUpper_relaxes : (publishUpper false).Relaxes (publishUpper true) where
  names := rfl
  limits := rfl
  cancellation := rfl
  content := rfl
  trusted := id
  trust := ⟨nofun, fun _ => id, fun _ => id⟩

/-- Where outputs are not trusted by default, the echo already taints the text. -/
theorem relaxing_keeps_publishUpper : ∃ pipeline pipeline',
    (publishUpper false).build 0 = .ok pipeline ∧ (publishUpper true).build 0 = .ok pipeline' ∧
      ((publishUpper false).perform pipeline 0 Session.empty).1.isTrustViolation = true ∧
      ∃ k, ((publishUpper false).run pipeline 0 Session.empty).EndsAt (k + 1) .failed ∧
        ∀ j ≤ k, ((publishUpper true).run pipeline' 0 Session.empty).Starts j := by
  have built : (publishUpper false).build 0 =
      .ok ⟨functions ⟨false, []⟩ 0 [.echo, .upper, .publish, .fetch], 4⟩ := rfl
  obtain ⟨pipeline', built', -, refused⟩ :=
    relaxing_keeps publishUpper_relaxes (Session.ready_empty 0 0) built
  have violation : ((publishUpper false).perform
      ⟨functions ⟨false, []⟩ 0 [.echo, .upper, .publish, .fetch], 4⟩ 0
      Session.empty).1.isTrustViolation = true := by decide +kernel
  obtain ⟨k, ends, -, starts, -⟩ := refused violation
  exact ⟨_, pipeline', built, built', violation, k, ends, starts⟩

end Job

end Builtin

end TaintTracking
