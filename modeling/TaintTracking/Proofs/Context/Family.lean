import TaintTracking.Proofs.Session.Effects

/-!
Contexts that live in one session and are made, cloned, shared, written to and marked with errors in any
order. What one operation does to the contexts, to the stores that they are on, and to what is seen
through each of them.
-/

namespace TaintTracking

/-- Contexts, each known by its position, with the session that they live in. -/
structure Family where
  contexts : List Context
  session : Session

/-- Something done with the contexts of a family, which are named by position. Tainting everything or the
main variable is an edit like others; `merge` takes what the source holds at that moment. -/
inductive Deed where
  | new (store : Store)
  | clone (source : Nat)
  | share (source : Nat)
  | edit (target : Nat) (change : Store.Edit)
  | merge (target source : Nat) (discard : Bool)
  | fail (target : Nat) (error : InvocationError)
  | clearError (target : Nat)

namespace Deed

/-- The context through which the deed is done, unless it makes one. -/
def target? : Deed → Option Nat
  | .edit target _ => some target
  | .merge target _ _ => some target
  | .fail target _ => some target
  | .clearError target => some target
  | _ => none

/-- The context whose error is set or cleared. -/
def marked? : Deed → Option Nat
  | .fail target _ => some target
  | .clearError target => some target
  | _ => none

end Deed

namespace Family

/-- Where there is no context at a position, nothing is done. A context that is made has the next position. -/
def perform (family : Family) : Deed → Family
  | .new store =>
    let (context, s) := family.session.newContext store
    ⟨family.contexts ++ [context], s⟩
  | .clone source =>
    match family.contexts[source]? with
    | some context =>
      let (copy, s) := family.session.cloneContext context
      ⟨family.contexts ++ [copy], s⟩
    | none => family
  | .share source =>
    match family.contexts[source]? with
    | some context => { family with contexts := family.contexts ++ [context.share] }
    | none => family
  | .edit target change =>
    match family.contexts[target]? with
    | some context => { family with session := family.session.edit context change }
    | none => family
  | .merge target source discard =>
    match family.contexts[target]?, family.contexts[source]? with
    | some context, some other =>
      let change := Store.Edit.merge (family.session.storeOf other) discard
      { family with session := family.session.edit context change }
    | _, _ => family
  | .fail target error => { family with contexts := family.contexts.modify target (·.fail error) }
  | .clearError target => { family with contexts := family.contexts.modify target Context.clearError }

def performAll (family : Family) (deeds : List Deed) : Family := deeds.foldl perform family

/-- The contexts that deeds make of none. -/
def after (start : Session) (deeds : List Deed) : Family := performAll ⟨[], start⟩ deeds

/-- The stores that the contexts are on. -/
def homes (family : Family) : List StoreId := family.contexts.map (·.store)

/-- What is seen of the variables through the context at a position. -/
def variables? (family : Family) (position : Nat) : Option Store :=
  (family.contexts[position]?).map family.session.storeOf

/-- The session has handed out all the stores that the contexts are on. -/
def Known (family : Family) : Prop := ∀ home ∈ family.homes, home < family.session.issued

section Homes
variable (family : Family)

@[simp] theorem getElem?_homes (position : Nat) :
    family.homes[position]? = (family.contexts[position]?).map (·.store) := List.getElem?_map

@[simp] theorem length_homes : family.homes.length = family.contexts.length := List.length_map _

theorem variables?_eq_map_homes (position : Nat) :
    family.variables? position = (family.homes[position]?).map family.session.stores := by
  rw [getElem?_homes, Option.map_map]
  rfl

/-- Setting or clearing an error moves no context to another store. -/
theorem homes_modify (target : Nat) (mark : Context → Context)
    (stays : ∀ context, (mark context).store = context.store) :
    homes { family with contexts := family.contexts.modify target mark } = family.homes := by
  refine List.ext_getElem? fun position => ?_
  rw [getElem?_homes, getElem?_homes, List.getElem?_modify]
  cases family.contexts[position]? with
  | none => rfl
  | some context =>
    by_cases here : target = position <;> simp [here, stays]

end Homes

section Step
variable (family : Family)

/-- The store of the context that a deed makes. -/
def made? : Deed → Option StoreId
  | .new _ => some family.session.issued
  | .clone source => (family.homes[source]?).map fun _ => family.session.issued
  | .share source => family.homes[source]?
  | _ => none

theorem homes_perform (deed : Deed) :
    (family.perform deed).homes = family.homes ++ (family.made? deed).toList := by
  cases deed with
  | new store => simp [perform, homes, made?, Session.newContext, Session.issue, Context.new]
  | clone source =>
    cases found : family.contexts[source]? with
    | none => simp [perform, made?, found]
    | some context =>
      simp [perform, homes, made?, found, Session.cloneContext, Session.issue]
  | share source =>
    cases found : family.contexts[source]? with
    | none => simp [perform, made?, found]
    | some context => simp [perform, homes, made?, found, Context.share]
  | edit target change =>
    cases found : family.contexts[target]? <;> simp [perform, homes, made?, found]
  | merge target source discard =>
    cases found : family.contexts[target]? <;> cases other : family.contexts[source]? <;>
      simp [perform, homes, made?, found, other]
  | fail target error =>
    exact (family.homes_modify target (·.fail error) fun _ => rfl).trans (List.append_nil _).symm
  | clearError target =>
    exact (family.homes_modify target Context.clearError fun _ => rfl).trans (List.append_nil _).symm

/-- The contexts of old keep their positions and stores; one that is made comes after them. -/
theorem getElem?_homes_perform_eq_some {deed : Deed} {position : Nat} {home : StoreId} :
    (family.perform deed).homes[position]? = some home ↔
      family.homes[position]? = some home ∨
        position = family.homes.length ∧ family.made? deed = some home := by
  rw [homes_perform]
  generalize family.homes = homes
  cases family.made? deed with
  | none => simp
  | some made =>
    rcases Nat.lt_trichotomy position homes.length with before | rfl | beyond
    · simp [List.getElem?_append_left before, Nat.ne_of_lt before]
    · simp
    · simp [List.getElem?_append_right (Nat.le_of_lt beyond), Nat.ne_of_gt beyond, Nat.le_of_lt beyond,
        Nat.sub_ne_zero_of_lt beyond]

theorem issued_le_perform (deed : Deed) :
    family.session.issued ≤ (family.perform deed).session.issued := by
  cases deed with
  | new store => exact Nat.le_succ _
  | clone source =>
    rw [perform]
    split
    · exact Nat.le_succ _
    · exact Nat.le_refl _
  | fail target error => exact Nat.le_refl _
  | clearError target => exact Nat.le_refl _
  | _ => rw [perform]; split <;> exact Nat.le_refl _

/-- The store of a context that a deed makes is that of the context shared, or one handed out with it. -/
theorem made?_cases {deed : Deed} {home : StoreId} (made : family.made? deed = some home) :
    (∃ source, deed = .share source ∧ family.homes[source]? = some home) ∨
      home = family.session.issued ∧ (family.perform deed).session.issued = family.session.issued + 1 := by
  cases deed with
  | new store =>
    obtain rfl := Option.some.inj made
    exact .inr ⟨rfl, rfl⟩
  | clone source =>
    obtain ⟨old, there, rfl⟩ := Option.map_eq_some_iff.mp made
    rw [getElem?_homes] at there
    obtain ⟨context, found, -⟩ := Option.map_eq_some_iff.mp there
    refine .inr ⟨rfl, ?_⟩
    rw [perform, found]
    rfl
  | share source => exact .inl ⟨source, rfl, made⟩
  | _ => cases made

theorem Known.perform {family : Family} (known : family.Known) (deed : Deed) :
    (family.perform deed).Known := by
  intro home member
  have grows := family.issued_le_perform deed
  rw [homes_perform] at member
  rcases List.mem_append.mp member with old | new
  · exact Nat.lt_of_lt_of_le (known home old) grows
  · rcases family.made?_cases (Option.mem_toList.mp new) with ⟨source, -, shared⟩ | ⟨rfl, issued⟩
    · exact Nat.lt_of_lt_of_le (known home (List.mem_of_getElem? shared)) grows
    · rw [issued]
      exact Nat.lt_succ_self _

/-- A deed writes to no store but that of the context through which it is done. -/
theorem stores_perform {deed : Deed} {id : StoreId} (old : id < family.session.issued)
    (elsewhere : ∀ target, deed.target? = some target → family.homes[target]? ≠ some id) :
    (family.perform deed).session.stores id = family.session.stores id := by
  cases deed with
  | new store => exact family.session.newContext_stores_of_lt store old
  | clone source =>
    rw [perform]
    split
    next context found => exact family.session.cloneContext_stores_of_lt context old
    next => rfl
  | share source => rw [perform]; split <;> rfl
  | edit target change =>
    rw [perform]
    split
    next context found =>
      refine family.session.stores_edit_of_ne context change fun same => elsewhere target rfl ?_
      rw [getElem?_homes, found, same]
      rfl
    next => rfl
  | merge target source discard =>
    rw [perform]
    split
    next context other found _ =>
      refine family.session.stores_edit_of_ne context _ fun same => elsewhere target rfl ?_
      rw [getElem?_homes, found, same]
      rfl
    next => rfl
  | fail target error => rfl
  | clearError target => rfl

/-- A deed leaves every context as it is, its run, its store and its error, unless it is about its error. -/
theorem getElem?_contexts_perform {deed : Deed} {position : Nat}
    (inside : position < family.contexts.length) (unmarked : deed.marked? ≠ some position) :
    (family.perform deed).contexts[position]? = family.contexts[position]? := by
  cases deed with
  | new store => exact List.getElem?_append_left inside
  | clone source =>
    rw [perform]
    split
    · exact List.getElem?_append_left inside
    · rfl
  | share source =>
    rw [perform]
    split
    · exact List.getElem?_append_left inside
    · rfl
  | edit target change => rw [perform]; split <;> rfl
  | merge target source discard => rw [perform]; split <;> rfl
  | fail target error =>
    have other : target ≠ position := fun same => unmarked (congrArg some same)
    simp [perform, other]
  | clearError target =>
    have other : target ≠ position := fun same => unmarked (congrArg some same)
    simp [perform, other]

end Step

end Family

end TaintTracking
