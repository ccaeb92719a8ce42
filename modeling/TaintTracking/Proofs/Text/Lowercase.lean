import Mathlib.Data.List.Sections
import TaintTracking.Proofs.Text.OtherCase

/-!
Texts that are lowercase already. Main statements: the lowercase of a text has no other lowercase than itself;
and a word of ASCII letters is the lowercase of its ASCII casings only, unless it has a `k`, which the Kelvin
sign leads to as well.
-/

namespace TaintTracking.Text

/-! Characters that are their own lowercase. They stay wherever they stand, and a lowercase has no others. -/

section Settled
variable {c d : Char} {before after : List Char}

theorem not_capitalSigma_of_settled (settled : lowerChar c = [c]) : c ≠ '\u03A3' := by
  rintro rfl
  rw [lowerChar_of_ne (by decide), capitalSigma_cases.2] at settled
  exact absurd (List.head_eq_of_cons_eq settled) (by decide)

theorem lowerAt_of_settled (settled : lowerChar c = [c]) : lowerAt before c after = [c] := by
  rw [lowerAt, if_neg (not_capitalSigma_of_settled settled), settled]

theorem lowerSigma_cases (before after : List Char) :
    lowerSigma before after = '\u03C3' ∨ lowerSigma before after = '\u03C2' := by
  unfold lowerSigma
  split
  · exact .inr rfl
  · exact .inl rfl

theorem shiftCase_lowercase_ne_dotted (plain : c ≠ '\u0130') : shiftCase lowercaseRuns c ≠ '\u0130' := by
  intro dotted
  have moves : shiftCase lowercaseRuns c ≠ c := fun stays => plain (stays.symm.trans dotted)
  have there := List.mem_append_left (targets uppercaseRuns) (mem_of_shiftCase_ne moves).2
  rw [dotted] at there
  exact not_mem_of_and_eq_zero targets_and_reserved there (by decide)

theorem settled_of_mem_lowerChar (member : d ∈ lowerChar c) : lowerChar d = [d] := by
  by_cases dotted : c = '\u0130'
  · subst dotted
    have both : d = 'i' ∨ d = '\u0307' := by simpa [lowerChar] using member
    rcases both with rfl | rfl <;> decide +kernel
  · rw [lowerChar_of_ne dotted, List.mem_singleton] at member
    subst member
    rw [lowerChar_of_ne (shiftCase_lowercase_ne_dotted dotted), shiftCase_lowercase_idem]

theorem settled_of_mem_lowerAt (member : d ∈ lowerAt before c after) : lowerChar d = [d] := by
  unfold lowerAt at member
  split at member
  · rw [List.mem_singleton] at member
    exact lowerChar_sigma (member ▸ lowerSigma_cases before after)
  · exact settled_of_mem_lowerChar member

end Settled

theorem settled_of_mem_lowerFrom {before cs : List Char} {d : Char} (member : d ∈ lowerFrom before cs) :
    lowerChar d = [d] := by
  induction cs generalizing before with
  | nil => cases member
  | cons c cs ih =>
    rw [lowerFrom_cons, List.mem_append] at member
    exact member.elim settled_of_mem_lowerAt ih

theorem lowerFrom_of_settled {cs : List Char} (settled : ∀ c ∈ cs, lowerChar c = [c]) (before : List Char) :
    lowerFrom before cs = cs := by
  induction cs generalizing before with
  | nil => rfl
  | cons c cs ih =>
    obtain ⟨here, later⟩ := List.forall_mem_cons.mp settled
    rw [lowerFrom_cons, lowerAt_of_settled here, ih later, List.singleton_append]

/-- Which sigma a capital one becomes is decided once: no capital is left whose neighbours could decide it
otherwise. -/
theorem lowercase_lowercase (text : String) : lowercase (lowercase text) = lowercase text := by
  have settled : ∀ c ∈ (lowercase text).toList, lowerChar c = [c] := by
    intro c member
    rw [lowercase, String.toList_ofList] at member
    exact settled_of_mem_lowerFrom member
  rw [lowercase, lowerFrom_of_settled settled, String.ofList_toList]

/-! ASCII. There the lowercase is the one of the ASCII letters, and nothing else leads there but the Kelvin
sign. -/

theorem forall_ascii {P : Char → Prop} (each : ∀ code < 128, P (Char.ofNat code)) (c : Char)
    (ascii : c.toNat < 128) : P c := by
  have here := each c.toNat ascii
  rwa [Char.ofNat_toNat] at here

/-- A letter outside ASCII has its lowercase outside as well, apart from the Kelvin sign. -/
theorem lowercaseRuns_ascii : ∀ run ∈ lowercaseRuns,
    (∀ code ∈ run.codes, code < 128) ∨ run.codes = ['\u212A'.toNat] ∨
      ∀ target ∈ run.targets, 128 ≤ target := by
  decide +kernel

section Ascii
variable {c letter : Char} {before after : List Char}

theorem ascii_of_toLower (ascii : c.toLower.toNat < 128) : c.toNat < 128 := by
  by_contra beyond
  have stays : c.toLower = c := dif_neg fun capital => beyond (Nat.lt_of_le_of_lt capital.2 (by decide))
  exact beyond (stays ▸ ascii)

/-- A small letter is the one of itself and of its capital. -/
theorem toLower_eq_iff (ascii : letter.toNat < 128) (small : letter.toLower = letter) :
    c.toLower = letter ↔ c = letter ∨ c = letter.toUpper := by
  constructor
  · rintro rfl
    exact forall_ascii (P := fun c => c = c.toLower ∨ c = c.toLower.toUpper) (by decide) c
      (ascii_of_toLower ascii)
  · rintro (rfl | rfl)
    · exact small
    · exact forall_ascii (P := fun letter => letter.toLower = letter → letter.toUpper.toLower = letter)
        (by decide) letter ascii small

theorem shiftCase_lowercase_of_ascii (ascii : c.toNat < 128) : shiftCase lowercaseRuns c = c.toLower :=
  forall_ascii (P := fun c => shiftCase lowercaseRuns c = c.toLower) (by decide +kernel) c ascii

theorem ascii_of_shiftCase_lowercase (ascii : (shiftCase lowercaseRuns c).toNat < 128)
    (other : shiftCase lowercaseRuns c ≠ 'k') : c.toNat < 128 := by
  rcases shiftCase_cases lowercaseRuns c with stays | ⟨run, member, here, there⟩
  · rwa [stays] at ascii
  · rcases lowercaseRuns_ascii run member with within | kelvin | beyond
    · exact within c.toNat here
    -- The sign leads to the one letter that is excluded.
    · rw [kelvin, List.mem_singleton, Char.toNat_inj] at here
      subst here
      exact absurd (by decide +kernel) other
    · have target := beyond _ (List.mem_map_of_mem here)
      rw [there] at ascii
      exact absurd ascii (Nat.not_lt.mpr target)

theorem lowerAt_of_ascii (ascii : c.toNat < 128) : lowerAt before c after = [c.toLower] := by
  have ne {d : Char} (beyond : 128 ≤ d.toNat) : c ≠ d := fun same => Nat.not_lt.mpr beyond (same ▸ ascii)
  rw [lowerAt, if_neg (ne (by decide)), lowerChar_of_ne (ne (by decide)), shiftCase_lowercase_of_ascii ascii]

theorem ascii_of_lowerAt (plain : ∀ d ∈ lowerAt before c after, d.toNat < 128 ∧ d ≠ 'k') :
    c.toNat < 128 := by
  unfold lowerAt at plain
  split at plain
  · have beyond : 128 ≤ (lowerSigma before after).toNat := by
      rcases lowerSigma_cases before after with sigma | sigma <;> rw [sigma] <;> decide
    exact absurd (plain _ (List.mem_singleton_self _)).1 (Nat.not_lt.mpr beyond)
  -- The lowercase of the dotted capital begins with an ASCII letter, but the dot that follows is none.
  · by_cases dotted : c = '\u0130'
    · subst dotted
      exact absurd (plain '\u0307' (by decide)).1 (by decide)
    · rw [lowerChar_of_ne dotted] at plain
      obtain ⟨ascii, other⟩ := plain _ (List.mem_singleton_self _)
      exact ascii_of_shiftCase_lowercase ascii other

end Ascii

theorem lowerFrom_of_ascii {cs : List Char} (ascii : ∀ c ∈ cs, c.toNat < 128) (before : List Char) :
    lowerFrom before cs = cs.map Char.toLower := by
  induction cs generalizing before with
  | nil => rfl
  | cons c cs ih =>
    obtain ⟨here, later⟩ := List.forall_mem_cons.mp ascii
    rw [lowerFrom_cons, lowerAt_of_ascii here, ih later, List.map_cons, List.singleton_append]

theorem ascii_of_lowerFrom {before cs : List Char}
    (plain : ∀ d ∈ lowerFrom before cs, d.toNat < 128 ∧ d ≠ 'k') : ∀ c ∈ cs, c.toNat < 128 := by
  induction cs generalizing before with
  | nil => exact fun _ member => absurd member List.not_mem_nil
  | cons c cs ih =>
    rw [lowerFrom_cons] at plain
    obtain ⟨here, later⟩ := List.forall_mem_append.mp plain
    exact List.forall_mem_cons.mpr ⟨ascii_of_lowerAt here, ih later⟩

/-- A character of ASCII, and no capital, that is the lowercase of nothing outside ASCII. -/
def Unmistakable (letter : Char) : Prop :=
  letter.toNat < 128 ∧ letter.toLower = letter ∧ letter ≠ 'k'

instance : DecidablePred Unmistakable := fun _ => inferInstanceAs (Decidable (_ ∧ _))

/-- The ways to write a word with each letter as it is or as its ASCII capital. -/
def asciiCasings (word : String) : List String :=
  (word.toList.map fun letter => [letter, letter.toUpper]).sections.map String.ofList

theorem mem_asciiCasings {text word : String} :
    text ∈ asciiCasings word ↔
      List.Forall₂ (fun c letter => c = letter ∨ c = letter.toUpper) text.toList word.toList := by
  have choice (cs : List Char) :
      cs ∈ (word.toList.map fun letter => [letter, letter.toUpper]).sections ↔
        List.Forall₂ (fun c letter => c = letter ∨ c = letter.toUpper) cs word.toList := by
    simp only [List.mem_sections, List.forall₂_map_right_iff, List.mem_cons, List.not_mem_nil, or_false]
  rw [asciiCasings, List.mem_map]
  constructor
  · rintro ⟨cs, member, rfl⟩
    rw [String.toList_ofList]
    exact (choice cs).mp member
  · exact fun casing => ⟨text.toList, (choice _).mpr casing, String.ofList_toList⟩

section Words
variable {letters : List Char} (unmistakable : ∀ letter ∈ letters, Unmistakable letter)
include unmistakable

theorem lowerFrom_eq_iff_map_toLower {before cs : List Char} :
    lowerFrom before cs = letters ↔ cs.map Char.toLower = letters := by
  constructor
  · rintro rfl
    have plain : ∀ d ∈ lowerFrom before cs, d.toNat < 128 ∧ d ≠ 'k' := by
      intro d member
      obtain ⟨ascii, -, other⟩ := unmistakable d member
      exact ⟨ascii, other⟩
    exact (lowerFrom_of_ascii (ascii_of_lowerFrom plain) before).symm
  · rintro rfl
    refine lowerFrom_of_ascii (fun c member => ?_) before
    exact ascii_of_toLower (unmistakable _ (List.mem_map_of_mem member)).1

theorem map_toLower_eq_iff {cs : List Char} :
    cs.map Char.toLower = letters ↔
      List.Forall₂ (fun c letter => c = letter ∨ c = letter.toUpper) cs letters := by
  induction cs generalizing letters with
  | nil => cases letters <;> simp
  | cons c cs ih =>
    cases letters with
    | nil => simp
    | cons letter letters =>
      obtain ⟨⟨ascii, small, -⟩, later⟩ := List.forall_mem_cons.mp unmistakable
      rw [List.map_cons, List.cons.injEq, List.forall₂_cons, ih later, toLower_eq_iff ascii small]

end Words

/-- No letter outside ASCII takes part in writing such a word. -/
theorem lowercase_eq_iff_mem_asciiCasings {text word : String}
    (unmistakable : ∀ letter ∈ word.toList, Unmistakable letter) :
    lowercase text = word ↔ text ∈ asciiCasings word := by
  rw [mem_asciiCasings, ← map_toLower_eq_iff unmistakable, ← lowerFrom_eq_iff_map_toLower unmistakable,
    lowercase, ← String.toList_inj, String.toList_ofList]

/-- The Kelvin sign is no casing of the small letter it leads to. -/
example : lowercase "\u212A" = "k" ∧ "\u212A" ∉ asciiCasings "k" := by decide +kernel

end TaintTracking.Text
