import Mathlib.Data.List.Induction
import Mathlib.Logic.Relation
import TaintTracking.Proofs.Context.Family

/-!
Which contexts see each other's writes. Main statement: exactly those that are linked by sharing; a clone is
never linked with its source, and no context sees another's error.
-/

namespace TaintTracking.Family

/-- The deed was done when so many contexts were there; what it made, if anything, has this position. -/
def DoneAt (start : Session) (deeds : List Deed) (deed : Deed) (position : Nat) : Prop :=
  ∃ earlier later, deeds = earlier ++ deed :: later ∧ (after start earlier).contexts.length = position

/-- One context was made by sharing the other. -/
def Shared (start : Session) (deeds : List Deed) (source share : Nat) : Prop :=
  source < share ∧ DoneAt start deeds (.share source) share

/-- One context was made by cloning the other. -/
def Cloned (start : Session) (deeds : List Deed) (source copy : Nat) : Prop :=
  source < copy ∧ DoneAt start deeds (.clone source) copy

/-- There is a chain of sharing between the contexts. -/
def Linked (start : Session) (deeds : List Deed) : Nat → Nat → Prop :=
  Relation.EqvGen (Shared start deeds)

section Run
variable {family : Family}

theorem performAll_append (family : Family) (deeds more : List Deed) :
    family.performAll (deeds ++ more) = (family.performAll deeds).performAll more :=
  List.foldl_append

theorem after_append (start : Session) (deeds more : List Deed) :
    after start (deeds ++ more) = (after start deeds).performAll more := performAll_append _ deeds more

theorem Known.performAll (known : family.Known) (deeds : List Deed) :
    (family.performAll deeds).Known := by
  induction deeds generalizing family with
  | nil => exact known
  | cons deed deeds ih => exact ih (known.perform deed)

theorem known_after (start : Session) (deeds : List Deed) : (after start deeds).Known :=
  Known.performAll (fun _ member => absurd member List.not_mem_nil) deeds

theorem homes_performAll (family : Family) (deeds : List Deed) :
    ∃ more, (family.performAll deeds).homes = family.homes ++ more := by
  induction deeds generalizing family with
  | nil => exact ⟨[], (List.append_nil _).symm⟩
  | cons deed deeds ih =>
    obtain ⟨more, later⟩ := ih (family.perform deed)
    rw [homes_perform, List.append_assoc] at later
    exact ⟨_, later⟩

/-- Nothing moves a context to another store. -/
theorem getElem?_homes_performAll {position : Nat} (inside : position < family.homes.length)
    (deeds : List Deed) : (family.performAll deeds).homes[position]? = family.homes[position]? := by
  obtain ⟨more, later⟩ := family.homes_performAll deeds
  rw [later, List.getElem?_append_left inside]

theorem length_le_performAll (family : Family) (deeds : List Deed) :
    family.homes.length ≤ (family.performAll deeds).homes.length := by
  obtain ⟨more, later⟩ := family.homes_performAll deeds
  rw [later, List.length_append]
  exact Nat.le_add_right _ _

theorem variables?_perform (known : family.Known) {deed : Deed} {position : Nat}
    (inside : position < family.homes.length)
    (elsewhere : ∀ target, deed.target? = some target →
      family.homes[target]? ≠ family.homes[position]?) :
    (family.perform deed).variables? position = family.variables? position := by
  rw [variables?_eq_map_homes, variables?_eq_map_homes, homes_perform,
    List.getElem?_append_left inside]
  have here := List.getElem?_eq_getElem inside
  rw [here] at elsewhere ⊢
  exact congrArg some (family.stores_perform (known _ (List.getElem_mem inside)) elsewhere)

/-- What is seen through a context stays, whatever is done through contexts on other stores. -/
theorem variables?_performAll (known : family.Known) {deeds : List Deed} {position : Nat}
    (inside : position < family.homes.length)
    (elsewhere : ∀ deed ∈ deeds, ∀ target, deed.target? = some target →
      (family.performAll deeds).homes[target]? ≠ (family.performAll deeds).homes[position]?) :
    (family.performAll deeds).variables? position = family.variables? position := by
  induction deeds generalizing family with
  | nil => rfl
  | cons deed deeds ih =>
    have grown : family.homes.length ≤ (family.perform deed).homes.length :=
      family.length_le_performAll [deed]
    obtain ⟨now, later⟩ := List.forall_mem_cons.mp elsewhere
    refine (ih (known.perform deed) (Nat.lt_of_lt_of_le inside grown) later).trans ?_
    refine variables?_perform known inside fun target through same => now target through ?_
    -- A target on the same store now is on the same store at the end.
    have there : target < family.homes.length := by
      rw [List.getElem?_eq_getElem inside] at same
      exact (List.getElem?_eq_some_iff.mp same).1
    rw [getElem?_homes_performAll there, getElem?_homes_performAll inside, same]

theorem getElem?_contexts_performAll {deeds : List Deed} {position : Nat}
    (inside : position < family.homes.length)
    (unmarked : ∀ deed ∈ deeds, deed.marked? ≠ some position) :
    (family.performAll deeds).contexts[position]? = family.contexts[position]? := by
  induction deeds generalizing family with
  | nil => rfl
  | cons deed deeds ih =>
    have grown : family.homes.length ≤ (family.perform deed).homes.length :=
      family.length_le_performAll [deed]
    obtain ⟨now, later⟩ := List.forall_mem_cons.mp unmarked
    refine (ih (Nat.lt_of_lt_of_le inside grown) later).trans ?_
    exact family.getElem?_contexts_perform (family.length_homes ▸ inside) now

end Run

/-! Sharing and cloning. -/

section Made
variable {start : Session} {deeds : List Deed} {source made : Nat}

theorem DoneAt.append {deed : Deed} (done : DoneAt start deeds deed made) (more : List Deed) :
    DoneAt start (deeds ++ more) deed made := by
  obtain ⟨earlier, later, rfl, size⟩ := done
  exact ⟨earlier, later ++ more, by simp, size⟩

theorem Linked.append {c d : Nat} (linked : Linked start deeds c d) (more : List Deed) :
    Linked start (deeds ++ more) c d := by
  induction linked with
  | rel source share shared => exact .rel _ _ ⟨shared.1, shared.2.append more⟩
  | refl position => exact .refl position
  | symm c d _ ih => exact .symm _ _ ih
  | trans c d e _ _ left right => exact .trans _ _ _ left right

/-- The store that a context was made on is the one that it is on still. -/
theorem DoneAt.homes {deed : Deed} (done : DoneAt start deeds deed made) (before : source < made) :
    ∃ family : Family, family.Known ∧ source < family.homes.length ∧
      (after start deeds).homes[source]? = family.homes[source]? ∧
      ∀ home, family.made? deed = some home → (after start deeds).homes[made]? = some home := by
  obtain ⟨earlier, later, rfl, rfl⟩ := done
  have inside : source < (after start earlier).homes.length := by rwa [length_homes]
  have split : after start (earlier ++ deed :: later) =
      ((after start earlier).perform deed).performAll later := after_append start earlier _
  refine ⟨after start earlier, known_after start earlier, inside, ?_, fun home makes => ?_⟩
  · rw [after_append, getElem?_homes_performAll inside]
  · have there : ((after start earlier).perform deed).homes[(after start earlier).contexts.length]? =
        some home := by
      rw [getElem?_homes_perform_eq_some]
      exact .inr ⟨(length_homes _).symm, makes⟩
    rw [split, getElem?_homes_performAll (List.getElem?_eq_some_iff.mp there).1, there]

theorem Shared.homes_eq {share : Nat} (shared : Shared start deeds source share) :
    (after start deeds).homes[source]? = (after start deeds).homes[share]? := by
  obtain ⟨family, -, inside, old, new⟩ := shared.2.homes shared.1
  have home := List.getElem?_eq_getElem inside
  rw [old, home, new _ home]

/-- A clone is on a store that was handed out for it. -/
theorem Cloned.homes_ne {copy : Nat} (cloned : Cloned start deeds source copy) :
    (after start deeds).homes[source]? ≠ (after start deeds).homes[copy]? := by
  obtain ⟨family, known, inside, old, new⟩ := cloned.2.homes cloned.1
  have home := List.getElem?_eq_getElem inside
  rw [old, home, new family.session.issued (by rw [made?, home]; rfl)]
  intro same
  exact Nat.ne_of_lt (known _ (List.getElem_mem inside)) (Option.some.inj same)

theorem Linked.homes_eq {c d : Nat} (linked : Linked start deeds c d) :
    (after start deeds).homes[c]? = (after start deeds).homes[d]? := by
  induction linked with
  | rel source share shared => exact shared.homes_eq
  | refl position => rfl
  | symm c d _ ih => exact ih.symm
  | trans c d e _ _ left right => exact left.trans right

/-- Contexts come to be on one store by sharing only. -/
theorem Linked.of_homes_eq {c d : Nat} {home : StoreId} (left : (after start deeds).homes[c]? = some home)
    (right : (after start deeds).homes[d]? = some home) : Linked start deeds c d := by
  induction deeds using List.reverseRecOn generalizing c d with
  | nil => cases left
  | append_singleton deeds deed ih =>
    let family := after start deeds
    -- A new context on the store of one that was there was made by sharing one that was there.
    have joined {old : Nat} (there : family.homes[old]? = some home)
        (makes : family.made? deed = some home) :
        Linked start (deeds ++ [deed]) old family.homes.length := by
      rcases family.made?_cases makes with ⟨source, rfl, shared⟩ | ⟨fresh, -⟩
      · refine .trans _ _ _ ((ih there shared).append _) (.rel _ _ ⟨?_, deeds, [], rfl, ?_⟩)
        · exact (List.getElem?_eq_some_iff.mp shared).1
        · exact (length_homes family).symm
      · exact absurd fresh (Nat.ne_of_lt (known_after start deeds _ (List.mem_of_getElem? there)))
    rw [after_append] at left right
    rcases family.getElem?_homes_perform_eq_some.mp left with oldLeft | ⟨rfl, newLeft⟩ <;>
      rcases family.getElem?_homes_perform_eq_some.mp right with oldRight | ⟨rfl, newRight⟩
    · exact (ih oldLeft oldRight).append _
    · exact joined oldLeft newRight
    · exact (joined oldRight newLeft).symm
    · exact .refl _

theorem Cloned.append {copy : Nat} (cloned : Cloned start deeds source copy) (more : List Deed) :
    Cloned start (deeds ++ more) source copy :=
  ⟨cloned.1, cloned.2.append more⟩

end Made

/-! What is seen through contexts that are linked, and through those that are not. -/

section Seen
variable (start : Session) (deeds : List Deed)

theorem sharesStoreWith_iff_linked {c d : Nat} {left right : Context}
    (leftThere : (after start deeds).contexts[c]? = some left)
    (rightThere : (after start deeds).contexts[d]? = some right) :
    left.sharesStoreWith right = true ↔ Linked start deeds c d := by
  have leftHome : (after start deeds).homes[c]? = some left.store := by simp [leftThere]
  have rightHome : (after start deeds).homes[d]? = some right.store := by simp [rightThere]
  rw [Context.sharesStoreWith, beq_iff_eq]
  constructor
  · intro same
    exact Linked.of_homes_eq leftHome (same ▸ rightHome)
  · intro linked
    have same := linked.homes_eq
    rw [leftHome, rightHome] at same
    exact Option.some.inj same

theorem Linked.variables?_eq {c d : Nat} (linked : Linked start deeds c d) :
    (after start deeds).variables? c = (after start deeds).variables? d := by
  rw [variables?_eq_map_homes, variables?_eq_map_homes, linked.homes_eq]

/-- What is seen through a context stays as long as nothing is done through a context linked with it. -/
theorem variables?_after_append {more : List Deed} {position : Nat}
    (inside : position < (after start deeds).contexts.length)
    (elsewhere : ∀ deed ∈ more, ∀ target, deed.target? = some target →
      ¬ Linked start (deeds ++ more) target position) :
    (after start (deeds ++ more)).variables? position = (after start deeds).variables? position := by
  rw [← length_homes] at inside
  rw [after_append]
  refine variables?_performAll (known_after start deeds) inside fun deed member target through same => ?_
  have home := getElem?_homes_performAll inside more
  rw [List.getElem?_eq_getElem inside, ← after_append] at home
  rw [← after_append, home] at same
  exact elsewhere deed member target through (Linked.of_homes_eq same home)

theorem getElem?_contexts_after_append {more : List Deed} {position : Nat}
    (inside : position < (after start deeds).contexts.length)
    (unmarked : ∀ deed ∈ more, deed.marked? ≠ some position) :
    (after start (deeds ++ more)).contexts[position]? = (after start deeds).contexts[position]? := by
  rw [after_append]
  exact getElem?_contexts_performAll (length_homes _ ▸ inside) unmarked

end Seen

section Apart
variable {start : Session} {deeds : List Deed} {source copy : Nat}

theorem Cloned.not_linked (cloned : Cloned start deeds source copy) (more : List Deed) :
    ¬ Linked start (deeds ++ more) source copy :=
  fun linked => (cloned.append more).homes_ne linked.homes_eq

theorem Cloned.inside (cloned : Cloned start deeds source copy) :
    copy < (after start deeds).contexts.length := by
  obtain ⟨family, -, inside, -, new⟩ := cloned.2.homes cloned.1
  have home := new family.session.issued (by rw [made?, List.getElem?_eq_getElem inside]; rfl)
  rw [← length_homes]
  exact (List.getElem?_eq_some_iff.mp home).1

/-- What is done through contexts linked with the one cannot be seen through the other. -/
theorem Cloned.variables?_eq (cloned : Cloned start deeds source copy) (more : List Deed) :
    ((∀ deed ∈ more, ∀ target, deed.target? = some target → Linked start (deeds ++ more) target source) →
      (after start (deeds ++ more)).variables? copy = (after start deeds).variables? copy) ∧
    ((∀ deed ∈ more, ∀ target, deed.target? = some target → Linked start (deeds ++ more) target copy) →
      (after start (deeds ++ more)).variables? source = (after start deeds).variables? source) := by
  have apart := cloned.not_linked more
  constructor <;> intro through
  · refine variables?_after_append start deeds cloned.inside fun deed member target at' linked => ?_
    exact apart (((through deed member target at').symm).trans _ _ _ linked)
  · refine variables?_after_append start deeds (Nat.lt_trans cloned.1 cloned.inside)
      fun deed member target at' linked => ?_
    exact apart ((linked.symm).trans _ _ _ (through deed member target at'))

end Apart

section Beginning
variable (family : Family) {source : Nat} {original : Context}

/-- A new context begins on a store that no other context is on. -/
theorem perform_new (known : family.Known) (store : Store) :
    let grown := family.perform (.new store)
    ∃ id, id ∉ family.homes ∧ grown.contexts = family.contexts ++ [⟨id, id, none, ""⟩] ∧
      grown.variables? family.contexts.length = some store := by
  refine ⟨family.session.issued, fun member => Nat.lt_irrefl _ (known _ member), rfl, ?_⟩
  simp [perform, variables?, Session.newContext, Session.issue, Session.putStore, Session.storeOf,
    Context.new, assign]

/-- A clone begins with all that its source has, on a store of its own. -/
theorem perform_clone (there : family.contexts[source]? = some original) :
    let cloned := family.perform (.clone source)
    cloned.contexts = family.contexts ++ [{ original with store := family.session.issued }] ∧
      cloned.variables? family.contexts.length = family.variables? source := by
  simp [perform, there, variables?, Session.cloneContext, Session.issue, Session.putStore,
    Session.storeOf, assign]

/-- A share begins on the store of its source, without its error. -/
theorem perform_share (there : family.contexts[source]? = some original) :
    let shared := family.perform (.share source)
    shared.contexts = family.contexts ++ [⟨original.run, original.store, none, ""⟩] ∧
      shared.variables? family.contexts.length = family.variables? source := by
  simp [perform, there, variables?, Session.storeOf, Context.share]

end Beginning

section Written
variable (family : Family) {target position : Nat}

/-- What is written through a context is seen through every context on its store. -/
theorem variables?_perform_edit (same : family.homes[target]? = family.homes[position]?)
    (change : Store.Edit) : (family.perform (.edit target change)).variables? position =
      (family.variables? position).map (·.edit change) := by
  have unmade : family.made? (.edit target change) = none := rfl
  rw [variables?_eq_map_homes, variables?_eq_map_homes, homes_perform, unmade, Option.toList_none,
    List.append_nil, ← same, getElem?_homes, perform]
  cases family.contexts[target]? with
  | none => rfl
  | some context => exact congrArg some (family.session.storeOf_edit context change)

/-- To merge is to edit by what the source holds. -/
theorem perform_merge {source : Nat} {incoming : Store}
    (there : family.variables? source = some incoming) (discard : Bool) :
    family.perform (.merge target source discard) =
      family.perform (.edit target (.merge incoming discard)) := by
  obtain ⟨other, found, rfl⟩ := Option.map_eq_some_iff.mp there
  rw [perform, perform, found]
  cases family.contexts[target]? <;> rfl

theorem getElem?_contexts_perform_fail {context : Context}
    (there : family.contexts[target]? = some context) (error : InvocationError) :
    (family.perform (.fail target error)).contexts[target]? =
      some { context with error := some error, description := error.message } := by
  simp [perform, there, Context.fail]

theorem getElem?_contexts_perform_clearError {context : Context}
    (there : family.contexts[target]? = some context) :
    (family.perform (.clearError target)).contexts[target]? =
      some { context with error := none, description := "" } := by
  simp [perform, there, Context.clearError]

end Written

/-- Contexts are isolated, whatever is done with them after any deeds. Those that are linked by sharing are
the ones on one store, and see the same; a context sees nothing of what is done through those that it is
not linked with. The run and the error of a context change only when its own error is set or cleared. A
clone begins as its source is and is never linked with it again; a share begins without error, and a new
context on a store of its own. What is written through a context is seen through all that are linked. -/
theorem contexts_isolated (start : Session) (deeds : List Deed) :
    let family := after start deeds
    (∀ c d left right, family.contexts[c]? = some left → family.contexts[d]? = some right →
      (left.sharesStoreWith right = true ↔ Linked start deeds c d) ∧
      (Linked start deeds c d → family.variables? c = family.variables? d)) ∧
    (∀ more position, position < family.contexts.length →
      (∀ deed ∈ more, ∀ target, deed.target? = some target →
        ¬ Linked start (deeds ++ more) target position) →
      (after start (deeds ++ more)).variables? position = family.variables? position) ∧
    (∀ more position, position < family.contexts.length →
      (∀ deed ∈ more, deed.marked? ≠ some position) →
      (after start (deeds ++ more)).contexts[position]? = family.contexts[position]?) ∧
    (∀ source original, family.contexts[source]? = some original →
      let cloned := family.perform (.clone source)
      (∃ store, cloned.contexts = family.contexts ++ [{ original with store := store }]) ∧
      cloned.variables? family.contexts.length = family.variables? source) ∧
    (∀ source copy, Cloned start deeds source copy → ∀ more,
      ¬ Linked start (deeds ++ more) source copy ∧
      ((∀ deed ∈ more, ∀ target, deed.target? = some target →
          Linked start (deeds ++ more) target source) →
        (after start (deeds ++ more)).variables? copy = family.variables? copy) ∧
      ((∀ deed ∈ more, ∀ target, deed.target? = some target →
          Linked start (deeds ++ more) target copy) →
        (after start (deeds ++ more)).variables? source = family.variables? source)) ∧
    (∀ source original, family.contexts[source]? = some original →
      let shared := family.perform (.share source)
      shared.contexts = family.contexts ++ [⟨original.run, original.store, none, ""⟩] ∧
      shared.variables? family.contexts.length = family.variables? source) ∧
    (∀ store,
      let grown := family.perform (.new store)
      ∃ id, id ∉ family.homes ∧ grown.contexts = family.contexts ++ [⟨id, id, none, ""⟩] ∧
        grown.variables? family.contexts.length = some store) ∧
    (∀ target position, Linked start deeds target position →
      (∀ change, (family.perform (.edit target change)).variables? position =
        (family.variables? position).map (·.edit change)) ∧
      ∀ source incoming discard, family.variables? source = some incoming →
        (family.perform (.merge target source discard)).variables? position =
          (family.variables? position).map (·.merge incoming discard)) ∧
    (∀ target context, family.contexts[target]? = some context →
      (∀ error, (family.perform (.fail target error)).contexts[target]? =
        some { context with error := some error, description := error.message }) ∧
      (family.perform (.clearError target)).contexts[target]? =
        some { context with error := none, description := "" }) := by
  refine ⟨fun c d left right leftThere rightThere => ⟨?_, Linked.variables?_eq start deeds⟩,
    fun more position inside elsewhere => variables?_after_append start deeds inside elsewhere,
    fun more position inside unmarked => getElem?_contexts_after_append start deeds inside unmarked,
    fun source original there => ?_,
    fun source copy cloned more => ⟨cloned.not_linked more, cloned.variables?_eq more⟩,
    fun source original there => perform_share _ there,
    perform_new _ (known_after start deeds), fun target position linked => ?_,
    fun target context there => ⟨getElem?_contexts_perform_fail _ there,
      getElem?_contexts_perform_clearError _ there⟩⟩
  · exact sharesStoreWith_iff_linked start deeds leftThere rightThere
  · exact ⟨⟨_, (perform_clone _ there).1⟩, (perform_clone _ there).2⟩
  · have seen := variables?_perform_edit _ linked.homes_eq
    refine ⟨seen, fun source incoming discard there => ?_⟩
    rw [perform_merge _ there]
    exact seen (.merge incoming discard)

/-- A context that was made anew, with a clone and a share. -/
def threeContexts : List Deed := [.new Store.new, .clone 0, .share 0]

theorem threeContexts_linked : Linked Session.empty threeContexts 2 0 :=
  .symm _ _ (.rel _ _ ⟨by decide, [.new Store.new, .clone 0], [], rfl, rfl⟩)

theorem threeContexts_cloned : Cloned Session.empty threeContexts 0 1 :=
  ⟨by decide, [.new Store.new], [.share 0], rfl, rfl⟩

/-- What is written through the share is seen through the source, and not through the clone. -/
theorem contexts_isolated_threeContexts :
    let family := after Session.empty threeContexts
    let written := family.perform (.edit 2 (.insert "City" "Lisbon"))
    Linked Session.empty threeContexts 2 0 ∧ Cloned Session.empty threeContexts 0 1 ∧
      written.variables? 0 = some (Store.new.insert "City" "Lisbon") ∧
      written.variables? 1 = some Store.new ∧ written.contexts[0]? = family.contexts[0]? := by
  intro family written
  obtain ⟨-, -, marks, -, apart, -, -, seen, -⟩ := contexts_isolated Session.empty threeContexts
  have split : after Session.empty (threeContexts ++ [.edit 2 (.insert "City" "Lisbon")]) = written :=
    after_append Session.empty threeContexts _
  have through : ∀ deed ∈ [Deed.edit 2 (.insert "City" "Lisbon")], ∀ target, deed.target? = some target →
      Linked Session.empty (threeContexts ++ [.edit 2 (.insert "City" "Lisbon")]) target 0 := by
    intro deed member target through
    obtain rfl := List.mem_singleton.mp member
    obtain rfl := Option.some.inj through
    exact threeContexts_linked.append _
  refine ⟨threeContexts_linked, threeContexts_cloned, ?_, ?_, ?_⟩
  · exact (seen 2 0 threeContexts_linked).1 (.insert "City" "Lisbon")
  · rw [← split, ((apart 0 1 threeContexts_cloned _).2).1 through]
    rfl
  · rw [← split]
    refine marks _ 0 (by decide) fun deed member => ?_
    obtain rfl := List.mem_singleton.mp member
    exact nofun

end TaintTracking.Family
