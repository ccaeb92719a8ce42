import Mathlib.Data.List.Chain
import TaintTracking.Text.Case

/-!
What the tables of the case mappings say about each other. A set of characters is a number with one bit for
each member, so that whole tables are compared by one operation. Main statement: the lowercase of the uppercase
of a small letter is that letter, apart from the letters listed here.
-/

namespace TaintTracking.Text

def bitsOf (codes : List Nat) : Nat := codes.foldr (fun code bits => bits ||| 1 <<< code) 0

def bitsOfRanges (ranges : List CodeRange) : Nat :=
  ranges.foldr (fun range bits => bits ||| (1 <<< (range.last + 1 - range.first) - 1) <<< range.first) 0

theorem testBit_bitsOf {codes : List Nat} {code : Nat} :
    (bitsOf codes).testBit code = true ↔ code ∈ codes := by
  induction codes with
  | nil => simp [bitsOf]
  | cons first codes ih =>
    rw [bitsOf, List.foldr_cons, ← bitsOf, Nat.testBit_or, Bool.or_eq_true, ih, Nat.one_shiftLeft,
      Nat.testBit_two_pow, decide_eq_true_iff, List.mem_cons, or_comm, eq_comm]

theorem testBit_bitsOfRanges (ranges : List CodeRange) (code : Nat) :
    (bitsOfRanges ranges).testBit code = ranges.any (·.covers code) := by
  induction ranges with
  | nil => simp [bitsOfRanges]
  | cons first ranges ih =>
    have here : ((1 <<< (first.last + 1 - first.first) - 1) <<< first.first).testBit code =
        first.covers code := by
      rw [Nat.testBit_shiftLeft, Nat.one_shiftLeft, Nat.testBit_two_pow_sub_one, CodeRange.covers,
        ← Bool.decide_and, ← Bool.decide_and]
      exact decide_eq_decide.mpr (by omega)
    rw [bitsOfRanges, List.foldr_cons, ← bitsOfRanges, Nat.testBit_or, ih, here, List.any_cons, Bool.or_comm]

/-- A character in two sets is in what they have in common. -/
theorem testBit_of_and_eq {left right common code : Nat} (meet : left &&& right = common)
    (inLeft : left.testBit code = true) (inRight : right.testBit code = true) :
    common.testBit code = true := by
  rw [← meet, Nat.testBit_and, inLeft, inRight, Bool.and_self]

theorem not_testBit_of_and_eq_zero {left right code : Nat} (meet : left &&& right = 0)
    (inLeft : left.testBit code = true) : right.testBit code = false := by
  rw [Bool.eq_false_iff]
  intro inRight
  have both := testBit_of_and_eq meet inLeft inRight
  rw [Nat.zero_testBit] at both
  cases both

theorem not_mem_of_and_eq_zero {left right : List Nat} (meet : bitsOf left &&& bitsOf right = 0) {code : Nat}
    (inLeft : code ∈ left) : code ∉ right := by
  intro inRight
  have apart := not_testBit_of_and_eq_zero meet (testBit_bitsOf.mpr inLeft)
  rw [testBit_bitsOf.mpr inRight] at apart
  cases apart

theorem toNat_mem_map {c : Char} {chars : List Char} : c.toNat ∈ chars.map Char.toNat ↔ c ∈ chars :=
  List.mem_map_of_injective fun _ _ => Char.toNat_inj.mp

theorem testBit_of_or_eq {part whole code : Nat} (within : part ||| whole = whole)
    (inPart : part.testBit code = true) : whole.testBit code = true := by
  rw [← within, Nat.testBit_or, inPart, Bool.true_or]

namespace CaseRun

/-- The code points that the run moves. -/
def codes (run : CaseRun) : List Nat :=
  List.range' run.first ((run.last - run.first) / run.stride + 1) run.stride

/-- Where the run moves them. -/
def targets (run : CaseRun) : List Nat :=
  run.codes.map fun code : Nat => (Char.ofNat (code + run.shift).toNat).toNat

theorem mem_codes_of_covers {run : CaseRun} {code : Nat} (covers : run.covers code = true) :
    code ∈ run.codes := by
  simp only [CaseRun.covers, Bool.and_eq_true, decide_eq_true_iff, beq_iff_eq] at covers
  obtain ⟨⟨after, before⟩, multiple⟩ := covers
  refine List.mem_range'.mpr ⟨(code - run.first) / run.stride, ?_, ?_⟩
  · exact Nat.lt_succ_of_le (Nat.div_le_div_right (Nat.sub_le_sub_right before _))
  · rw [Nat.mul_div_cancel' (Nat.dvd_of_mod_eq_zero multiple), Nat.add_sub_cancel' after]

/-- The other run takes every character that this run moves back to where it was. -/
def undoneBy (run back : CaseRun) : Bool :=
  back.shift == -run.shift && 0 ≤ run.first + run.shift && run.first ≤ run.last
    && back.covers (run.first + run.shift).toNat && back.covers (run.last + run.shift).toNat
    && (run.first == run.last || run.stride % back.stride == 0)

/-- A run that is not empty comes after the other one. -/
def Precedes (before after : CaseRun) : Prop :=
  before.last < after.first ∧ after.first ≤ after.last

instance : DecidableRel Precedes := fun before after =>
  inferInstanceAs (Decidable (before.last < after.first ∧ after.first ≤ after.last))

instance : Trans Precedes Precedes Precedes where
  trans first second := ⟨first.1.trans_le (first.2.trans_lt second.1).le, second.2⟩

end CaseRun

def moved (runs : List CaseRun) : List Nat := runs.flatMap CaseRun.codes

def targets (runs : List CaseRun) : List Nat := runs.flatMap CaseRun.targets

/-- A character stays or is moved by one of the runs. -/
theorem shiftCase_cases (runs : List CaseRun) (c : Char) :
    shiftCase runs c = c ∨
      ∃ run ∈ runs, c.toNat ∈ run.codes ∧ shiftCase runs c = run.apply c := by
  unfold shiftCase
  split
  next run found =>
    have covers := List.find?_some found
    exact .inr ⟨run, List.mem_of_find?_eq_some found, CaseRun.mem_codes_of_covers covers, rfl⟩
  next => exact .inl rfl

theorem mem_of_shiftCase_ne {runs : List CaseRun} {c : Char} (other : shiftCase runs c ≠ c) :
    c.toNat ∈ moved runs ∧ (shiftCase runs c).toNat ∈ targets runs := by
  obtain ⟨run, member, here, there⟩ := (shiftCase_cases runs c).resolve_left other
  refine ⟨List.mem_flatMap.mpr ⟨run, member, here⟩, List.mem_flatMap.mpr ⟨run, member, ?_⟩⟩
  exact List.mem_map.mpr ⟨c.toNat, here, congrArg Char.toNat there.symm⟩

/-- Where no two runs overlap, the one that covers a character moves it. -/
theorem shiftCase_of_covers {runs : List CaseRun}
    (sorted : runs.Pairwise fun before after => before.last < after.first) {run : CaseRun}
    (member : run ∈ runs) {c : Char} (covers : run.covers c.toNat = true) :
    shiftCase runs c = run.apply c := by
  induction runs with
  | nil => cases member
  | cons first runs ih =>
    obtain ⟨beyond, sorted⟩ := List.pairwise_cons.mp sorted
    rcases List.mem_cons.mp member with rfl | later
    · simp only [shiftCase, List.find?_cons, covers]
    · have past : first.covers c.toNat = false := by
        have before := beyond run later
        simp only [CaseRun.covers, Bool.and_eq_true, decide_eq_true_iff] at covers
        simp only [CaseRun.covers, Bool.and_eq_false_iff, decide_eq_false_iff_not]
        omega
      simp only [shiftCase, List.find?_cons, past]
      exact ih sorted later

/-! The tables themselves. -/

/-- The letters between the two cases. -/
def titlecase : List Char := ['\u01C5', '\u01C8', '\u01CB', '\u01F2']

/-- The small letters that are a variant of another one. Their uppercase is that of the other letter, so the
lowercase of it does not lead back to them. -/
def variants : List Char :=
  ['\u00B5', '\u0131', '\u017F', '\u0345', '\u03D0', '\u03D1', '\u03D5', '\u03D6', '\u03F0', '\u03F1',
    '\u03F5', '\u1C80', '\u1C81', '\u1C82', '\u1C83', '\u1C84', '\u1C85', '\u1C86', '\u1C87', '\u1C88',
    '\u1E9B', '\u1FBE']

theorem lowercaseRuns_sorted :
    lowercaseRuns.Pairwise fun before after => before.last < after.first := by
  have chain : lowercaseRuns.IsChain CaseRun.Precedes := by decide +kernel
  exact (List.isChain_iff_pairwise.mp chain).imp And.left

/-- No run for the lowercase leads to a letter that has another lowercase. -/
theorem targets_lowercase_and_moved :
    bitsOf (targets lowercaseRuns) &&& bitsOf (moved lowercaseRuns) = 0 := by
  decide +kernel

/-- Only the letters between the cases have both a lowercase and an uppercase. -/
theorem moved_uppercase_and_lowercase :
    bitsOf (moved uppercaseRuns) &&& bitsOf (moved lowercaseRuns) = bitsOf (titlecase.map Char.toNat) := by
  decide +kernel

/-- The combining iota, which is one of the variants, is the one letter with another case that is passed over in
front of a sigma and after it. -/
theorem moved_and_caseIgnorable :
    bitsOf (moved lowercaseRuns ++ moved uppercaseRuns) &&& bitsOfRanges caseIgnorableRanges =
      bitsOf [0x0345] := by
  decide +kernel

theorem targets_and_caseIgnorable :
    bitsOf (targets lowercaseRuns ++ targets uppercaseRuns) &&& bitsOfRanges caseIgnorableRanges = 0 := by
  decide +kernel

theorem moved_or_cased :
    bitsOf (moved lowercaseRuns ++ moved uppercaseRuns) ||| bitsOfRanges casedRanges =
      bitsOfRanges casedRanges := by
  decide +kernel

theorem targets_or_cased :
    bitsOf (targets lowercaseRuns ++ targets uppercaseRuns) ||| bitsOfRanges casedRanges =
      bitsOfRanges casedRanges := by
  decide +kernel

/-- No run leads to the dotted capital, or to a code point that is no character. -/
theorem targets_and_reserved :
    bitsOf (targets lowercaseRuns ++ targets uppercaseRuns) &&& bitsOf [0, 0x0130] = 0 := by
  decide +kernel

/-- But for the letters that are listed, what a run makes of a letter is what another one takes back. -/
theorem uppercaseRuns_undone :
    ∀ run ∈ uppercaseRuns, lowercaseRuns.any run.undoneBy = true ∨
      ∀ code ∈ run.codes, code ∈ ('\u03C2' :: (titlecase ++ variants)).map Char.toNat := by
  decide +kernel

/-! What follows for single characters. -/

section Consequences
variable {c : Char}

/-- What is lowercase stays so. -/
theorem shiftCase_lowercase_idem (c : Char) :
    shiftCase lowercaseRuns (shiftCase lowercaseRuns c) = shiftCase lowercaseRuns c := by
  by_contra again
  have moves : shiftCase lowercaseRuns c ≠ c := fun stays => again (by rw [stays, stays])
  exact not_mem_of_and_eq_zero targets_lowercase_and_moved (mem_of_shiftCase_ne moves).2
    (mem_of_shiftCase_ne again).1

theorem shiftCase_lowercase_of_moved (moves : shiftCase uppercaseRuns c ≠ c) (plain : c ∉ titlecase) :
    shiftCase lowercaseRuns c = c := by
  by_contra lowers
  have both := testBit_of_and_eq moved_uppercase_and_lowercase
    (testBit_bitsOf.mpr (mem_of_shiftCase_ne moves).1) (testBit_bitsOf.mpr (mem_of_shiftCase_ne lowers).1)
  exact plain (toNat_mem_map.mp (testBit_bitsOf.mp both))

theorem toNat_ofNat_of_ne_zero {n : Nat} (valid : (Char.ofNat n).toNat ≠ 0) : (Char.ofNat n).toNat = n := by
  unfold Char.ofNat at valid ⊢
  by_cases scalar : n.isValidChar
  · rw [dif_pos scalar]
    rfl
  · rw [dif_neg scalar] at valid
    exact absurd rfl valid

/-- A run that is undone takes its code points to ones of the other run, which takes them back. -/
theorem apply_undone {run back : CaseRun} (undone : run.undoneBy back = true)
    (here : c.toNat ∈ run.codes) (valid : (run.apply c).toNat ≠ 0) :
    back.covers (run.apply c).toNat = true ∧ back.apply (run.apply c) = c := by
  have there : (run.apply c).toNat = (c.toNat + run.shift).toNat := toNat_ofNat_of_ne_zero valid
  simp only [CaseRun.undoneBy, CaseRun.covers, Bool.and_eq_true, Bool.or_eq_true, decide_eq_true_iff,
    beq_iff_eq] at undone
  obtain ⟨⟨⟨⟨⟨shift, positive⟩, ordered⟩, ⟨first, -⟩, start⟩, ⟨-, last⟩, -⟩, strides⟩ := undone
  obtain ⟨i, inside, place⟩ := List.mem_range'.mp here
  have within : run.stride * i ≤ run.last - run.first :=
    (Nat.mul_le_mul_left _ (Nat.le_of_lt_succ inside)).trans (Nat.mul_div_le _ _)
  have moves : (run.apply c).toNat = (run.first + run.shift).toNat + run.stride * i := by omega
  have multiple : back.stride ∣ run.stride * i := by
    rcases strides with single | divides
    · rw [show run.stride * i = 0 by omega]
      exact Nat.dvd_zero _
    · exact Nat.dvd_mul_right_of_dvd (Nat.dvd_of_mod_eq_zero divides) i
  constructor
  · simp only [CaseRun.covers, Bool.and_eq_true, decide_eq_true_iff, beq_iff_eq]
    refine ⟨⟨by omega, by omega⟩, ?_⟩
    rw [moves, Nat.sub_add_comm first]
    exact Nat.mod_eq_zero_of_dvd (Nat.dvd_add (Nat.dvd_of_mod_eq_zero start) multiple)
  · have back : (((c.toNat + run.shift).toNat : Int) + -run.shift).toNat = c.toNat := by omega
    rw [CaseRun.apply, there, shift, back, Char.ofNat_toNat]

/-- The lowercase of the uppercase is the small letter that was there. -/
theorem shiftCase_lowercase_uppercase (moves : shiftCase uppercaseRuns c ≠ c)
    (plain : c ∉ '\u03C2' :: (titlecase ++ variants)) :
    shiftCase lowercaseRuns (shiftCase uppercaseRuns c) = c := by
  obtain ⟨run, member, here, there⟩ := (shiftCase_cases uppercaseRuns c).resolve_left moves
  have valid := not_mem_of_and_eq_zero targets_and_reserved (List.mem_append_right _ (mem_of_shiftCase_ne moves).2)
  rw [there] at valid ⊢
  rcases uppercaseRuns_undone run member with undone | excepted
  · obtain ⟨back, known, undone⟩ := List.any_eq_true.mp undone
    obtain ⟨covers, returns⟩ := apply_undone undone here fun zero => valid (by simp [zero])
    rw [shiftCase_of_covers lowercaseRuns_sorted known covers, returns]
  · exact absurd (toNat_mem_map.mp (excepted c.toNat here)) plain

end Consequences

end TaintTracking.Text
