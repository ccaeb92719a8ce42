import Mathlib.Data.List.Forall2
import TaintTracking.Proofs.Text.CaseTable

/-!
Texts that differ only in case. Main statement: such texts have the same lowercase exactly if none of the letters
that stand for each other is a variant, and each capital sigma stands for the sigma that it becomes in its
place.
-/

namespace TaintTracking.Text

/-- The same character, or its uppercase or its lowercase where that is one character. -/
inductive Recases (c : Char) : Char → Prop
  | same : Recases c c
  | upper {d : Char} (single : upperChar c = [d]) : Recases c d
  | lower {d : Char} (single : lowerChar c = [d]) : Recases c d

theorem recases_iff {c d : Char} : Recases c d ↔ d = c ∨ upperChar c = [d] ∨ lowerChar c = [d] := by
  constructor
  · rintro (_ | single | single)
    exacts [.inl rfl, .inr (.inl single), .inr (.inr single)]
  · rintro (rfl | single | single)
    exacts [.same, .upper single, .lower single]

instance : DecidableRel Recases := fun _ _ => decidable_of_iff' _ recases_iff

section Mappings
variable {c d : Char}

theorem upperChar_eq_singleton (single : upperChar c = [d]) : d = shiftCase uppercaseRuns c := by
  have several : ∀ entry ∈ uppercaseExpansions, entry.2.length ≠ 1 := by decide +kernel
  unfold upperChar at single
  split at single
  next entry expansion found =>
    have length : expansion.length = 1 := congrArg List.length single
    exact absurd length (several _ (List.mem_of_find?_eq_some found))
  next => exact (List.head_eq_of_cons_eq single).symm

theorem lowerChar_of_ne (plain : c ≠ '\u0130') : lowerChar c = [shiftCase lowercaseRuns c] := if_neg plain

theorem lowerChar_eq_singleton (single : lowerChar c = [d]) :
    c ≠ '\u0130' ∧ d = shiftCase lowercaseRuns c := by
  have plain : c ≠ '\u0130' := by
    rintro rfl
    cases single
  rw [lowerChar_of_ne plain] at single
  exact ⟨plain, (List.head_eq_of_cons_eq single).symm⟩

-- Over the list and not over all characters, of which there are too many to go through.
theorem lowerChar_variant : ∀ c ∈ variants,
    lowerChar c = [c] ∧ upperChar c ≠ ['\u03A3'] ∧ (upperChar c).flatMap lowerChar ≠ [c] := by
  have each : variants.all (fun c =>
      lowerChar c = [c] ∧ upperChar c ≠ ['\u03A3'] ∧ (upperChar c).flatMap lowerChar ≠ [c]) = true := by
    decide +kernel
  simpa only [List.all_eq_true, decide_eq_true_iff] using each

theorem lowerChar_titlecase : ∀ c ∈ titlecase,
    upperChar c ≠ ['\u03A3'] ∧ (upperChar c).flatMap lowerChar = lowerChar c := by
  have each : titlecase.all (fun c =>
      upperChar c ≠ ['\u03A3'] ∧ (upperChar c).flatMap lowerChar = lowerChar c) = true := by
    decide +kernel
  simpa only [List.all_eq_true, decide_eq_true_iff] using each

theorem dotted_fixed : shiftCase uppercaseRuns '\u0130' = '\u0130' := by decide +kernel

theorem capitalSigma_cases :
    shiftCase uppercaseRuns '\u03A3' = '\u03A3' ∧ shiftCase lowercaseRuns '\u03A3' = '\u03C3' := by
  decide +kernel

theorem finalSigma_cases :
    shiftCase uppercaseRuns '\u03C2' = '\u03A3' ∧ shiftCase lowercaseRuns '\u03C2' = '\u03C2' := by
  decide +kernel

theorem lowerChar_sigma (small : c = '\u03C3' ∨ c = '\u03C2') : lowerChar c = [c] := by
  rcases small with rfl | rfl <;> decide +kernel

end Mappings

namespace Recases
variable {c d : Char} (recases : Recases c d) (other : d ≠ c)
include recases other

theorem mem_tables :
    c.toNat ∈ moved lowercaseRuns ++ moved uppercaseRuns ∧
      d.toNat ∈ targets lowercaseRuns ++ targets uppercaseRuns := by
  cases recases with
  | same => exact absurd rfl other
  | upper single =>
    obtain rfl := upperChar_eq_singleton single
    exact (mem_of_shiftCase_ne other).imp (List.mem_append_right _) (List.mem_append_right _)
  | lower single =>
    obtain ⟨-, rfl⟩ := lowerChar_eq_singleton single
    exact (mem_of_shiftCase_ne other).imp (List.mem_append_left _) (List.mem_append_left _)

/-- The dotted capital has no other case that is one character. -/
theorem not_dotted : c ≠ '\u0130' ∧ d ≠ '\u0130' := by
  constructor
  · rintro rfl
    cases recases with
    | same => exact other rfl
    | upper single => exact other ((upperChar_eq_singleton single).trans dotted_fixed)
    | lower single => exact (lowerChar_eq_singleton single).1 rfl
  · rintro rfl
    exact not_mem_of_and_eq_zero targets_and_reserved (recases.mem_tables other).2 (by decide)

/-- Other than a variant and the final sigma, a letter has the lowercase that it has in the other case. -/
theorem lowerChar_eq (plain : c ∉ '\u03C2' :: variants) : lowerChar d = lowerChar c := by
  obtain ⟨here, there⟩ := recases.not_dotted other
  cases recases with
  | same => rfl
  | upper single =>
    by_cases between : c ∈ titlecase
    · simpa only [single, List.flatMap_singleton] using (lowerChar_titlecase c between).2
    · obtain rfl := upperChar_eq_singleton single
      have returns := shiftCase_lowercase_uppercase other (by simp_all)
      rw [lowerChar_of_ne there, lowerChar_of_ne here, returns, shiftCase_lowercase_of_moved other between]
  | lower single =>
    obtain ⟨-, rfl⟩ := lowerChar_eq_singleton single
    rw [lowerChar_of_ne there, lowerChar_of_ne here, shiftCase_lowercase_idem]

theorem lowerChar_ne (variant : c ∈ variants) : d ≠ '\u03A3' ∧ lowerChar d ≠ lowerChar c := by
  obtain ⟨small, plain, differs⟩ := lowerChar_variant c variant
  cases recases with
  | same => exact absurd rfl other
  | upper single =>
    rw [single] at plain differs
    rw [List.flatMap_singleton] at differs
    exact ⟨fun sigma => plain (congrArg (fun letter => [letter]) sigma), small ▸ differs⟩
  | lower single => exact absurd (List.head_eq_of_cons_eq (single.symm.trans small)) other

end Recases

theorem Recases.to_sigma {c : Char} (recases : Recases c '\u03A3') (other : c ≠ '\u03A3') :
    c = '\u03C3' ∨ c = '\u03C2' := by
  cases recases with
  | same => exact absurd rfl other
  | upper single =>
    by_cases final : c = '\u03C2'
    · exact .inr final
    · have uppers := upperChar_eq_singleton single
      have plain : c ∉ '\u03C2' :: (titlecase ++ variants) := by
        simp only [List.mem_cons, List.mem_append, not_or]
        exact ⟨final, fun between => (lowerChar_titlecase c between).1 single,
          fun variant => (lowerChar_variant c variant).2.1 single⟩
      have returns := shiftCase_lowercase_uppercase (fun stays => other (stays.symm.trans uppers.symm)) plain
      rw [← uppers, capitalSigma_cases.2] at returns
      exact .inl returns.symm
  | lower single =>
    have lowers := (lowerChar_eq_singleton single).2
    have again := shiftCase_lowercase_idem c
    rw [← lowers, capitalSigma_cases.2] at again
    exact absurd again (by decide)

theorem Recases.of_finalSigma {d : Char} (recases : Recases '\u03C2' d) (other : d ≠ '\u03C2') : d = '\u03A3' := by
  cases recases with
  | same => exact absurd rfl other
  | upper single => exact (upperChar_eq_singleton single).trans finalSigma_cases.1
  | lower single => exact absurd ((lowerChar_eq_singleton single).2.trans finalSigma_cases.2) other

theorem Recases.of_sigma {d : Char} (recases : Recases '\u03A3' d) (other : d ≠ '\u03A3') : d = '\u03C3' := by
  cases recases with
  | same => exact absurd rfl other
  | upper single => exact absurd ((upperChar_eq_singleton single).trans capitalSigma_cases.1) other
  | lower single => exact (lowerChar_eq_singleton single).2.trans capitalSigma_cases.2

/-! Characters in their place. A variant is lost in any place. Once none is, both texts show the same classes
around each place, so that a capital sigma becomes the same small one in both. -/

def sigmas : List Char := ['\u03A3', '\u03C3', '\u03C2']

/-- A sigma cannot tell the one character from the other. -/
def SameClass (c d : Char) : Prop := isCased c = isCased d ∧ isCaseIgnorable c = isCaseIgnorable d

/-- No variant was written in another case. -/
def Plain (c d : Char) : Prop := d = c ∨ c ∉ variants

theorem Recases.sameClass {c d : Char} (recases : Recases c d) (plain : Plain c d) : SameClass c d := by
  rcases plain with rfl | plain
  · exact ⟨rfl, rfl⟩
  · by_cases other : d = c
    · exact other ▸ ⟨rfl, rfl⟩
    obtain ⟨here, there⟩ := recases.mem_tables other
    have casedHere := testBit_of_or_eq moved_or_cased (testBit_bitsOf.mpr here)
    have casedThere := testBit_of_or_eq targets_or_cased (testBit_bitsOf.mpr there)
    have stopsThere := not_testBit_of_and_eq_zero targets_and_caseIgnorable (testBit_bitsOf.mpr there)
    have stopsHere : inRanges caseIgnorableRanges c = false := by
      rw [Bool.eq_false_iff]
      intro ignored
      have iota := testBit_of_and_eq moved_and_caseIgnorable (testBit_bitsOf.mpr here)
        ((testBit_bitsOfRanges _ _).trans ignored)
      rw [testBit_bitsOf, List.mem_singleton] at iota
      exact plain ((Char.toNat_inj (d := '\u0345')).mp iota ▸ by decide)
    rw [testBit_bitsOfRanges] at casedHere casedThere stopsThere
    exact ⟨casedHere.trans casedThere.symm, stopsHere.trans stopsThere.symm⟩

theorem meetsCased_congr {left right : List Char} (same : List.Forall₂ SameClass left right) :
    meetsCased left = meetsCased right := by
  induction same with
  | nil => rfl
  | @cons c d left right letter _ ih =>
    unfold meetsCased at ih ⊢
    rw [List.dropWhile_cons, List.dropWhile_cons, letter.2]
    cases isCaseIgnorable d with
    | true => exact ih
    | false => exact letter.1

theorem lowerSigma_congr {before before' after after' : List Char}
    (left : List.Forall₂ SameClass before before') (right : List.Forall₂ SameClass after after') :
    lowerSigma before after = lowerSigma before' after' := by
  unfold lowerSigma
  rw [meetsCased_congr left, meetsCased_congr right]

/-- What a character contributes to the lowercase of a text. -/
def lowerAt (before : List Char) (c : Char) (after : List Char) : List Char :=
  if c = '\u03A3' then [lowerSigma before after] else lowerChar c

theorem lowerFrom_cons (before : List Char) (c : Char) (after : List Char) :
    lowerFrom before (c :: after) = lowerAt before c after ++ lowerFrom (c :: before) after := rfl

/-- The character `d` in the place of `c` is no other letter: no variant is lost, and a capital sigma stands
for the sigma that it becomes between its neighbours. -/
def KeepsLetter (before : List Char) (c d : Char) (after : List Char) : Prop :=
  d = c ∨ c ∉ variants ∧ (c = '\u03A3' → d = lowerSigma before after) ∧
    (d = '\u03A3' → c = lowerSigma before after)

/-- `before` holds what precedes both texts, nearest first. -/
def KeepsLetters (before : List Char) : List Char → List Char → Prop
  | c :: after, d :: others => KeepsLetter before c d after ∧ KeepsLetters (c :: before) after others
  | _, _ => True

instance (before : List Char) (c d : Char) (after : List Char) : Decidable (KeepsLetter before c d after) :=
  inferInstanceAs (Decidable (_ ∨ _))

instance instDecidableKeepsLetters : (before cs ds : List Char) → Decidable (KeepsLetters before cs ds)
  | before, c :: after, _ :: others =>
    have := instDecidableKeepsLetters (c :: before) after others
    inferInstanceAs (Decidable (_ ∧ _))
  | _, [], _ => .isTrue trivial
  | _, _ :: _, [] => .isTrue trivial

section Places
variable {c d : Char} {before before' after after' : List Char}

theorem KeepsLetter.plain (keeps : KeepsLetter before c d after) : Plain c d := keeps.imp_right And.left

namespace Recases

theorem length_lowerAt (recases : Recases c d) :
    (lowerAt before c after).length = (lowerAt before' d after').length := by
  have single {e : Char} {before after : List Char} (plain : e ≠ '\u0130') :
      (lowerAt before e after).length = 1 := by
    rw [lowerAt, lowerChar_of_ne plain]
    split <;> rfl
  by_cases other : d = c
  · subst other
    by_cases dotted : d = '\u0130'
    · subst dotted
      rfl
    · rw [single dotted, single dotted]
  · rw [single (recases.not_dotted other).1, single (recases.not_dotted other).2]

/-- A variant has another lowercase in the other case, whatever stands around it. -/
theorem plain_of_lowerAt_eq (recases : Recases c d) (same : lowerAt before c after = lowerAt before' d after') :
    Plain c d := by
  by_cases other : d = c
  · exact .inl other
  refine .inr fun variant => ?_
  obtain ⟨sigma, differs⟩ := recases.lowerChar_ne other variant
  have small : c ≠ '\u03A3' := fun capital => absurd (capital ▸ variant) (by decide)
  rw [lowerAt, lowerAt, if_neg small, if_neg sigma] at same
  exact differs same.symm

theorem lowerAt_eq_iff (recases : Recases c d) (plain : Plain c d) :
    lowerAt before c after = lowerAt before d after ↔ KeepsLetter before c d after := by
  by_cases other : d = c
  · subst other
    exact ⟨fun _ => .inl rfl, fun _ => rfl⟩
  have unlisted : c ∉ variants := plain.resolve_left other
  unfold lowerAt
  -- Only one of the two can be the capital sigma, and then the place decides.
  by_cases capital : c = '\u03A3'
  · subst capital
    obtain rfl := recases.of_sigma other
    rw [if_pos rfl, if_neg other, lowerChar_sigma (.inl rfl), List.singleton_inj]
    exact ⟨fun same => .inr ⟨unlisted, fun _ => same.symm, fun sigma => absurd sigma other⟩,
      fun keeps => ((keeps.resolve_left other).2.1 rfl).symm⟩
  by_cases sigma : d = '\u03A3'
  · subst sigma
    rw [if_neg capital, if_pos rfl, lowerChar_sigma (recases.to_sigma capital), List.singleton_inj]
    exact ⟨fun same => .inr ⟨unlisted, fun sigma => absurd sigma capital, fun _ => same⟩,
      fun keeps => (keeps.resolve_left other).2.2 rfl⟩
  · have final : c ≠ '\u03C2' := by
      rintro rfl
      exact sigma (recases.of_finalSigma other)
    have lower : lowerChar d = lowerChar c := recases.lowerChar_eq other (by simp [final, unlisted])
    rw [if_neg capital, if_neg sigma, lower]
    exact ⟨fun _ => .inr ⟨unlisted, fun same => absurd same capital, fun same => absurd same sigma⟩,
      fun _ => rfl⟩

end Recases

end Places

/-! Texts. Both have the same number of characters, and each contributes as many to the lowercase as the one in
its place, so equal texts have equal parts. -/

section Texts
variable {cs ds : List Char} (recases : List.Forall₂ Recases cs ds)
include recases

theorem plain_of_lowerFrom_eq {before before' : List Char} (same : lowerFrom before cs = lowerFrom before' ds) :
    List.Forall₂ Plain cs ds := by
  induction recases generalizing before before' with
  | nil => exact .nil
  | cons letter _ ih =>
    rw [lowerFrom_cons, lowerFrom_cons] at same
    obtain ⟨here, later⟩ := List.append_inj same letter.length_lowerAt
    exact .cons (letter.plain_of_lowerAt_eq here) (ih later)

theorem plain_of_keepsLetters {before : List Char} (keeps : KeepsLetters before cs ds) :
    List.Forall₂ Plain cs ds := by
  induction recases generalizing before with
  | nil => exact .nil
  | cons _ _ ih => exact .cons keeps.1.plain (ih keeps.2)

theorem sameClass_of_plain (plain : List.Forall₂ Plain cs ds) : List.Forall₂ SameClass cs ds := by
  induction recases with
  | nil => exact .nil
  | cons letter _ ih =>
    cases plain with
    | cons here later => exact .cons (letter.sameClass here) (ih later)

theorem lowerFrom_eq_iff_of_plain (plain : List.Forall₂ Plain cs ds) {before before' : List Char}
    (around : List.Forall₂ SameClass before before') :
    lowerFrom before cs = lowerFrom before' ds ↔ KeepsLetters before cs ds := by
  induction recases generalizing before before' with
  | nil => exact ⟨fun _ => trivial, fun _ => rfl⟩
  | @cons c d cs ds letter others ih =>
    cases plain with
    | cons here later =>
      have context : lowerAt before' d ds = lowerAt before d cs := by
        unfold lowerAt
        rw [lowerSigma_congr around (sameClass_of_plain others later)]
      have rest := ih later (.cons (letter.sameClass here) around)
      rw [lowerFrom_cons, lowerFrom_cons, KeepsLetters, ← letter.lowerAt_eq_iff here, ← rest, ← context]
      exact ⟨fun same => List.append_inj same letter.length_lowerAt, fun same => by rw [same.1, same.2]⟩

/-- Which sigmas end a word is the same in both texts once no variant is lost, so the letters can be compared
one by one. -/
theorem lowerFrom_eq_iff : lowerFrom [] cs = lowerFrom [] ds ↔ KeepsLetters [] cs ds :=
  ⟨fun same => (lowerFrom_eq_iff_of_plain recases (plain_of_lowerFrom_eq recases same) .nil).mp same,
    fun keeps => (lowerFrom_eq_iff_of_plain recases (plain_of_keepsLetters recases keeps) .nil).mpr keeps⟩

end Texts

theorem keepsLetters_of_unlisted {cs ds : List Char} (recases : List.Forall₂ Recases cs ds)
    (unlisted : ∀ c ∈ cs, c ∉ sigmas ++ variants) (before : List Char) : KeepsLetters before cs ds := by
  induction recases generalizing before with
  | nil => trivial
  | @cons c d cs ds letter _ ih =>
    obtain ⟨here, later⟩ := List.forall_mem_cons.mp unlisted
    refine ⟨?_, ih later _⟩
    rw [List.mem_append, not_or] at here
    have capital : c ≠ '\u03A3' := fun same => here.1 (same ▸ by decide)
    refine .inr ⟨here.2, fun same => absurd same capital, ?_⟩
    rintro rfl
    rcases letter.to_sigma capital with rfl | rfl <;> exact absurd (by decide) here.1

/-- The other text arises from this one by writing any of its characters in the other case, where that is one
character. -/
def Respells (text other : String) : Prop := List.Forall₂ Recases text.toList other.toList

/-- Every letter of the text is still the same letter in the other one. -/
def SameLetters (text other : String) : Prop := KeepsLetters [] text.toList other.toList

instance (text other : String) : Decidable (Respells text other) :=
  inferInstanceAs (Decidable (List.Forall₂ ..))

instance (text other : String) : Decidable (SameLetters text other) :=
  instDecidableKeepsLetters [] text.toList other.toList

theorem lowercase_eq_iff {text other : String} (respells : Respells text other) :
    lowercase text = lowercase other ↔ SameLetters text other := by
  rw [SameLetters, ← lowerFrom_eq_iff respells, lowercase, lowercase, String.ofList_inj]

/-- The capital sigma after a letter is a final one. -/
example : ¬SameLetters "\u03B1\u03C3" "\u0391\u03A3" ∧ SameLetters "\u03B1\u03C2" "\u0391\u03A3" := by
  decide +kernel

end TaintTracking.Text
