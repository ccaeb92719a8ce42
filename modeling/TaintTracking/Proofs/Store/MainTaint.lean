import TaintTracking.Proofs.Schedule
import TaintTracking.Proofs.Store.LastWriter

/-!
The taint of the main variable. Main statement: as long as the main variable is only rewritten under its
trust or tainted, it ends trusted exactly if it began so and nothing tainted it, whatever the order; so
no interleaving of clients loses a taint.
-/

namespace TaintTracking.Store

namespace Edit

/-- The edit is not about the main variable, or else rewrites it under its trust or taints it. -/
def KeepsTaint : Edit → Prop
  | .set name _ _ => normalize name ≠ mainName
  | .setValue name _ => normalize name ≠ mainName
  | .insert name _ => normalize name ≠ mainName
  | .remove name => normalize name ≠ mainName
  | .updateMain _ _ => False
  | .updateMainPreservingTrust _ _ => True
  | .untrustMain => True
  | .forceAllUntrusted => True
  | .merge _ _ => False

def TaintsMain : Edit → Prop
  | .updateMainPreservingTrust _ trusted => trusted = false
  | .untrustMain => True
  | .forceAllUntrusted => True
  | _ => False

theorem effect_of_ne {change : Edit} {key other : String} (about : change.key? = some key)
    (ne : key ≠ other) : change.effect other = .leaves := by
  rw [effect, about, if_neg (by simpa using ne)]

section Effect
variable {change : Edit} (keeps : change.KeepsTaint)
include keeps

theorem KeepsTaint.effect_main :
    change.effect mainName =
      match change with
      | .updateMainPreservingTrust content trusted => .rewrites content trusted
      | .untrustMain => .taints
      | .forceAllUntrusted => .taints
      | _ => .leaves := by
  cases change with
  | set name content trusted => exact effect_of_ne rfl keeps
  | setValue name value => exact effect_of_ne rfl keeps
  | insert name content => exact effect_of_ne rfl keeps
  | remove name => exact effect_of_ne rfl keeps
  | updateMain content trusted => exact keeps.elim
  | updateMainPreservingTrust content trusted => rfl
  | untrustMain => rfl
  | forceAllUntrusted => rfl
  | merge incoming discard => exact keeps.elim

theorem KeepsTaint.undecided : ¬(change.effect mainName).Decides := by
  rw [keeps.effect_main]
  cases change <;> exact id

theorem KeepsTaint.keepsTrust_iff : (change.effect mainName).keepsTrust = true ↔ ¬change.TaintsMain := by
  rw [keeps.effect_main]
  cases change <;> simp [Effect.keepsTrust, TaintsMain]

theorem KeepsTaint.content?_eq_none (other : ∀ content trusted,
    change ≠ .updateMainPreservingTrust content trusted) : (change.effect mainName).content? = none := by
  rw [keeps.effect_main]
  cases change with
  | updateMainPreservingTrust content trusted => exact absurd rfl (other content trusted)
  | _ => rfl

end Effect

theorem forall_not_taintsMain_iff {edits : List Edit} :
    (∀ change ∈ edits, ¬change.TaintsMain) ↔
      (∀ content trusted, .updateMainPreservingTrust content trusted ∈ edits → trusted = true) ∧
        .untrustMain ∉ edits ∧ .forceAllUntrusted ∉ edits := by
  constructor
  · intro clean
    refine ⟨fun content trusted member => ?_, fun member => clean _ member trivial,
      fun member => clean _ member trivial⟩
    exact Bool.of_not_eq_false (clean _ member)
  · rintro ⟨updates, untrusts, forces⟩ change member taints
    cases change with
    | updateMainPreservingTrust content trusted =>
      exact Bool.false_ne_true (taints.symm.trans (updates content trusted member))
    | untrustMain => exact untrusts member
    | forceAllUntrusted => exact forces member
    | _ => exact taints

end Edit

section History
variable {store : Store} {edits : List Edit} (keeps : ∀ change ∈ edits, change.KeepsTaint)
include keeps

theorem main_editAll :
    (store.editAll edits).main = standing (edits.map (Edit.effect mainName)) store.main := by
  have value := store.value_editAll_of_undecided fun change member => (keeps change member).undecided
  simpa [slot?_mainName] using value

/-- The main variable is trusted at the end if it was at the beginning and no edit tainted it. -/
theorem main_trusted_editAll_iff :
    (store.editAll edits).main.trusted = true ↔
      store.main.trusted = true ∧ ∀ change ∈ edits, ¬change.TaintsMain := by
  rw [main_editAll keeps, standing, Bool.and_eq_true, List.all_map, List.all_eq_true]
  refine and_congr_right fun _ => forall₂_congr fun change member => ?_
  exact (keeps change member).keepsTrust_iff

theorem main_content_editAll (other : ∀ content trusted,
    .updateMainPreservingTrust content trusted ∉ edits) :
    (store.editAll edits).main.content = store.main.content := by
  have silent : (edits.map (Edit.effect mainName)).reverse.findSome? Effect.content? = none := by
    simp only [List.findSome?_eq_none_iff, List.mem_reverse, List.forall_mem_map]
    intro change member
    exact (keeps change member).content?_eq_none fun content trusted same =>
      other content trusted (same ▸ member)
  rw [main_editAll keeps, standing, silent]
  rfl

end History

/-- A later edit cannot take a taint away. -/
theorem main_untrusted_take {store : Store} {edits : List Edit}
    (keeps : ∀ change ∈ edits, change.KeepsTaint) {i j : Nat} (le : i ≤ j)
    (untrusted : (store.editAll (edits.take i)).main.trusted = false) :
    (store.editAll (edits.take j)).main.trusted = false := by
  have prefixKeeps (n : Nat) : ∀ change ∈ edits.take n, change.KeepsTaint :=
    fun change member => keeps change (List.mem_of_mem_take member)
  rw [Bool.eq_false_iff] at untrusted ⊢
  -- Trust at the later point says that no edit up to there tainted, so none up to the earlier one did.
  intro trusted
  obtain ⟨first, clean⟩ := (main_trusted_editAll_iff (prefixKeeps j)).mp trusted
  refine untrusted ((main_trusted_editAll_iff (prefixKeeps i)).mpr ⟨first, fun change member => ?_⟩)
  exact clean change ((List.take_subset_take_left edits le) member)

/-- An edit that keeps the taint of the main variable rewrites it under its trust or taints it, if it is
about it at all. After any edits of this kind it is trusted exactly if it was at first and none of them
tainted it. So reordering them makes no difference, and in particular it makes none in which order clients
get their turns. Its content is that of the last rewriting, or the first if there is none, and once it is
untrusted it stays so. -/
theorem main_taint_kept (store : Store) {edits : List Edit}
    (keeps : ∀ change ∈ edits, change.KeepsTaint) :
    let final := store.editAll edits
    (final.main.trusted = true ↔
      store.main.trusted = true ∧
        (∀ content trusted, .updateMainPreservingTrust content trusted ∈ edits → trusted = true) ∧
        .untrustMain ∉ edits ∧ .forceAllUntrusted ∉ edits) ∧
    (∀ other, other.Perm edits → (store.editAll other).main.trusted = final.main.trusted) ∧
    (∀ {Client : Type} [DecidableEq Client] (programs : Client → List Edit)
      (one other : Schedule Client Edit), one.Interleaves programs → other.Interleaves programs →
      one.steps = edits → (store.editAll other.steps).main.trusted = final.main.trusted) ∧
    (∀ earlier content trusted later,
      edits = earlier ++ .updateMainPreservingTrust content trusted :: later →
      (∀ content trusted, .updateMainPreservingTrust content trusted ∉ later) →
      final.main.content = content) ∧
    ((∀ content trusted, .updateMainPreservingTrust content trusted ∉ edits) →
      final.main.content = store.main.content) ∧
    (∀ i j, i ≤ j → (store.editAll (edits.take i)).main.trusted = false →
      (store.editAll (edits.take j)).main.trusted = false) := by
  intro final
  have reordered {other : List Edit} (same : ∀ change, change ∈ other ↔ change ∈ edits) :
      (store.editAll other).main.trusted = final.main.trusted := by
    rw [Bool.eq_iff_iff, main_trusted_editAll_iff keeps,
      main_trusted_editAll_iff fun change member => keeps change ((same change).mp member)]
    simp only [same]
  refine ⟨?_, fun other perm => reordered fun change => perm.mem_iff,
    fun programs one other oneTurns otherTurns steps => reordered fun change => ?_,
    fun earlier content trusted later split last => ?_, main_content_editAll keeps,
    fun i j le => main_untrusted_take keeps le⟩
  · rw [main_trusted_editAll_iff keeps, Edit.forall_not_taintsMain_iff]
  · rw [otherTurns.mem_steps_iff, ← oneTurns.mem_steps_iff, steps]
  · subst split
    have after : final = ((store.editAll earlier).edit
        (.updateMainPreservingTrust content trusted)).editAll later := store.editAll_append _ _
    rw [after, main_content_editAll (fun change member => keeps change ?_) last]
    · rfl
    · exact List.mem_append_right _ (List.mem_cons_of_mem _ member)

/-- One client rewrites the main variable twice, the other once and without trust, after a write of its own. -/
def writers : Schedule Bool Edit :=
  [(true, .updateMainPreservingTrust "first" true), (false, .insert "City" "Lisbon"),
    (false, .updateMainPreservingTrust "other" false), (true, .updateMainPreservingTrust "last" true)]

def otherWriterFirst : Schedule Bool Edit :=
  [(false, .insert "City" "Lisbon"), (false, .updateMainPreservingTrust "other" false),
    (true, .updateMainPreservingTrust "first" true), (true, .updateMainPreservingTrust "last" true)]

/-- The taint is there at the end in both orders, though the last content came with trust. -/
theorem main_taint_kept_writers :
    (∀ change ∈ writers.steps, change.KeepsTaint) ∧
      ((ofMain ⟨"in", true⟩).editAll writers.steps).main.trusted = false ∧
      ((ofMain ⟨"in", true⟩).editAll writers.steps).main.content = "last" ∧
      ((ofMain ⟨"in", true⟩).editAll otherWriterFirst.steps).main.trusted = false := by
  have keeps : ∀ change ∈ writers.steps, change.KeepsTaint := by
    have city : normalize "City" ≠ mainName := by decide +kernel
    simp [writers, Schedule.steps, Edit.KeepsTaint, city]
  obtain ⟨trusted, -, turns, content, -⟩ := main_taint_kept (ofMain ⟨"in", true⟩) keeps
  have untrusted : ((ofMain ⟨"in", true⟩).editAll writers.steps).main.trusted = false := by
    rw [Bool.eq_false_iff]
    intro all
    have member : .updateMainPreservingTrust "other" false ∈ writers.steps := .tail _ (.tail _ (.head _))
    exact Bool.false_ne_true ((trusted.mp all).2.1 "other" false member)
  have same : otherWriterFirst.Interleaves writers.stepsOf := by
    intro client
    cases client <;> rfl
  refine ⟨keeps, untrusted, ?_, ?_⟩
  · exact content (writers.steps.take 3) "last" true [] rfl fun _ _ member => absurd member List.not_mem_nil
  · rw [turns writers.stepsOf writers otherWriterFirst (fun _ => rfl) same rfl, untrusted]

end TaintTracking.Store
