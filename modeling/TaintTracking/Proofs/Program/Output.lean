import TaintTracking.Proofs.Session.Steps
import TaintTracking.Proofs.Store.Slots

/-!
How a native function lets the output of its body in. Main statement: the policy is consulted once,
before the body; what the body then leaves is what the caller finds, except that the main variable
takes the text over, and keeps its trust only under a true verdict and without a force flag.
-/

namespace TaintTracking

/-- No variable is trusted after that was not there, trusted and under the same name, before. -/
def Store.GainsNoTrust (before after : Store) : Prop :=
  ∀ (key : String) (slot : Slot), after.slot? key = some slot → slot.value.trusted = true →
    ∃ earlier, before.slot? key = some earlier ∧ earlier.name = slot.name ∧
      earlier.value.trusted = true

theorem Store.GainsNoTrust.refl (store : Store) : store.GainsNoTrust store :=
  fun _ slot found trusted => ⟨slot, found, rfl, trusted⟩

/-- A change of the main variable alone. -/
theorem Store.GainsNoTrust.of_main {store : Store} {main : TaintedValue}
    (weaker : main.trusted = true → store.main.trusted = true) :
    store.GainsNoTrust { store with main } := by
  intro key slot found trusted
  rw [Store.slot?_with_main] at found
  split at found
  next here =>
    cases found
    rw [here]
    exact ⟨_, store.slot?_mainName, rfl, weaker trusted⟩
  next => exact ⟨slot, found, rfl, trusted⟩

/-- How the output of a body is let in. `left` is the session as the body left it, and `out` is what the
function gives its caller. -/
structure Guard.LetsIn (guard : Guard) (output : OutputShape) (result : output.Result)
    (verdict forced : Bool) (caller : Context) (left : Session) (out : Context × Session) : Prop where
  context : out.1 = caller
  main : (out.2.storeOf caller).main =
    ⟨output.settledContent (left.storeOf caller).main.content result,
      (left.storeOf caller).main.trusted && verdict && !forced⟩
  others : ∀ key, key ≠ mainName →
    (out.2.storeOf caller).slot? key = (left.storeOf caller).slot? key
  elsewhere : ∀ id, id ≠ caller.store → out.2.stores id = left.stores id
  noGain : ∀ id, (left.stores id).GainsNoTrust (out.2.stores id)
  trail : out.2.trail = .completed guard.descriptor output verdict forced :: left.trail
  consultations : out.2.consultations = left.consultations

theorem Guard.letsIn_settle (guard : Guard) {output : OutputShape} (inPlace : output ≠ .context)
    (result : output.Result) (verdict forced : Bool) (caller : Context) (left : Session) :
    guard.LetsIn output result verdict forced caller left
      (output.settle caller (verdict && !forced) (guard.complete output verdict forced left) result) := by
  have store := OutputShape.settle_store caller (verdict && !forced)
    (guard.complete output verdict forced left) inPlace result
  rw [show (guard.complete output verdict forced left).storeOf caller = left.storeOf caller from rfl,
    ← Bool.and_assoc] at store
  refine ⟨OutputShape.settle_context caller _ _ inPlace result, by rw [store], ?_, ?_, ?_,
    output.settle_trail caller _ _ result, output.settle_consultations caller _ _ result⟩
  · intro key other
    rw [store, Store.slot?_of_ne _ other, Store.slot?_of_ne _ other]
  · intro id other
    exact output.settle_stores_of_ne caller _ _ result other
  · intro id
    by_cases here : id = caller.store
    · subst here
      change (left.storeOf caller).GainsNoTrust (Session.storeOf _ caller)
      rw [store]
      apply Store.GainsNoTrust.of_main
      intro trusted
      simp only [Bool.and_eq_true] at trusted
      exact trusted.1.1
    · rw [output.settle_stores_of_ne caller _ _ result here]
      exact .refl _

namespace SkillFunction

/-- The output of a native function that does not replace the context, whatever its policy answers and
whatever its body does: the consultation before the body is the only one that the function itself
makes, the body is given the main content of that moment, and the caller has its own context back with
the variables as the body left them. -/
theorem invoke_native_output {guard : Guard} {shape : Shape} (inPlace : shape.output ≠ .context)
    {code : shape.input.Argument → Program shape.output shape.input.contexts} {caller : Context}
    {token : TokenId} {verdict : Bool} {result : shape.output.Result} {s asked left : Session}
    (consent : guard.consult caller s = (.ok verdict, asked))
    (body : (code (shape.input.argument (s.storeOf caller).main.content)).run
      (Scope.ofContext (shape.given caller)) (shape.token token)
      (guard.enter .body caller (guard.logInvoking verdict asked)) = (.ok result, left)) :
    (∃ events, left.trail = events ++
      [.entered .body guard.descriptor (s.storeOf caller),
        .logged (.invokingNative guard.descriptor.skill guard.descriptor.function verdict),
        .consulted (guard.currentDescriptor s) (s.storeOf caller) (.ok verdict)] ++ s.trail) ∧
      guard.LetsIn shape.output result verdict (guard.forcesUntrusted s) caller left
        ((native guard shape code).invoke caller token s) := by
  have same : asked.storeOf caller = s.storeOf caller :=
    Session.storeOf_congr (Guard.stores_of_consult consent) caller
  refine ⟨?_, ?_⟩
  · obtain ⟨events, grown⟩ := (code (shape.input.argument (s.storeOf caller).main.content)).trail_grows
      (Scope.ofContext (shape.given caller)) (shape.token token)
      (guard.enter .body caller (guard.logInvoking verdict asked))
    rw [body] at grown
    refine ⟨events, ?_⟩
    have entered : (guard.enter .body caller (guard.logInvoking verdict asked)).trail =
        .entered .body guard.descriptor (asked.storeOf caller) ::
          .logged (.invokingNative guard.descriptor.skill guard.descriptor.function verdict) ::
          asked.trail := rfl
    rw [show left.trail = _ from grown, entered, same, Guard.trail_of_consent consent]
    simp
  · rw [← same] at body
    rw [invoke_of_body consent body, Guard.forcesUntrusted_of_consult consent]
    exact guard.letsIn_settle inPlace result verdict (guard.forcesUntrusted s) caller left

/-- A policy that says no to everything it agrees to, whatever the context. -/
def stampGuard : Guard :=
  ⟨Descriptor.new "desk" "stamp", 3, .ofAnswers 1 "never" (fun _ => .ok false) []⟩

/-- A body that notes where it was and returns what it was given with a mark. -/
def stampCode (text : String) : Program .text 1 :=
  .act (.edit (Fin.last 0) (.insert "Seen" "desk")) fun _ => @Program.done .text 1 (text ++ "!")

theorem invoke_native_output_stamp :
    let s := Session.empty.edit (Context.new 0 0) (.updateMain "page" true)
    let asked := (stampGuard.consult (Context.new 0 0) s).2
    let left := (stampGuard.enter .body (Context.new 0 0) (stampGuard.logInvoking false asked)).edit
      (Context.new 0 0) (.insert "Seen" "desk")
    OutputShape.text ≠ .context ∧ stampGuard.consult (Context.new 0 0) s = (.ok false, asked) ∧
      (stampCode "page").run (Scope.ofContext (Context.new 0 0)) (some 7)
        (stampGuard.enter .body (Context.new 0 0) (stampGuard.logInvoking false asked)) =
          (.ok "page!", left) ∧
      stampGuard.LetsIn .text "page!" false false (Context.new 0 0) left
        ((native stampGuard ⟨.textAndContext, .text, true⟩ stampCode).invoke (Context.new 0 0) 7 s) := by
  intro s asked left
  have inPlace : OutputShape.text ≠ .context := by decide
  have consent : stampGuard.consult (Context.new 0 0) s = (.ok false, asked) := rfl
  have run : (stampCode "page").run (Scope.ofContext (Context.new 0 0)) (some 7)
      (stampGuard.enter .body (Context.new 0 0) (stampGuard.logInvoking false asked)) =
        (.ok "page!", left) := by
    rw [stampCode, Program.run]
    dsimp only
    rw [Program.run]
    rfl
  have law := @invoke_native_output stampGuard ⟨.textAndContext, .text, true⟩ inPlace stampCode
    (Context.new 0 0) 7 false "page!" s asked left consent run
  exact ⟨inPlace, consent, run, law.2⟩

end SkillFunction

end TaintTracking
