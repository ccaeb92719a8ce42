import TaintTracking.Json.Parser
import TaintTracking.Json.Printer

/-!
Reading a printed document. Main statement: the compact text of a document whose texts are complete
and which holds no number reads back as that document.
-/

namespace TaintTracking

mutual

/-- A document that is all flags, complete texts and containers of these. -/
def Data.IsPlain : Data → Prop
  | .null => True
  | .flag _ => True
  | .number _ => False
  | .text value => value.isSome
  | .list items => Data.ArePlain items
  | .record members => Data.AreMembersPlain members

def Data.ArePlain : List Data → Prop
  | [] => True
  | item :: items => item.IsPlain ∧ Data.ArePlain items

def Data.AreMembersPlain : List (Option String × Data) → Prop
  | [] => True
  | (name, value) :: members => name.isSome ∧ value.IsPlain ∧ Data.AreMembersPlain members

end

namespace Json

/-! Strings. Each character is written as one piece, and the pieces join to the characters. -/

/-- Wherever the piece stands, it joins to the character. -/
def Piece.Spells (piece : Piece) (c : Char) : Prop :=
  ∀ pieces, joinPieces (piece :: pieces) = (joinPieces pieces).map (c :: ·)

theorem spells_char (c : Char) : (Piece.char c).Spells c := fun _ => by rw [joinPieces]

/-- A unit that is no half of a pair stands for itself, whatever follows. -/
theorem spells_unit {code : Nat} (low : isLowSurrogate code = false)
    (high : isHighSurrogate code = false) : (Piece.unit code).Spells (Char.ofNat code) := by
  intro pieces
  cases pieces with
  | nil => simp [joinPieces, low, high]
  | cons piece pieces =>
    cases piece with
    | char c => simp [joinPieces, low, high]
    | unit next => rw [joinPieces, if_neg (by simp [high]), if_neg (by simp [low])]

theorem spells_control {c : Char} (control : c.toNat < 0x20) : (Piece.unit c.toNat).Spells c := by
  have spells := @spells_unit c.toNat (by simp [isLowSurrogate]; omega)
    (by simp [isHighSurrogate]; omega)
  rwa [Char.ofNat_toNat] at spells

/-- The four digits after `\u`. -/
theorem hexDigits_control : ∀ n < 0x20,
    hexDigits 4 n = ['0', '0', Nat.digitChar (n / 16), Nat.digitChar (n % 16)] ∧
      unit? '0' '0' (Nat.digitChar (n / 16)) (Nat.digitChar (n % 16)) = some n := by
  decide

/-- Puts a piece before the pieces that were scanned. -/
def prepend (piece : Piece) (scanned : List Piece × List Char) : List Piece × List Char :=
  (piece :: scanned.1, scanned.2)

theorem scanPieces_plain {c : Char} (notQuote : c ≠ '"') (notBackslash : c ≠ '\\')
    (printable : ¬c.toNat < 0x20) (rest : List Char) :
    scanPieces (c :: rest) = (scanPieces rest).map (prepend (.char c)) := by
  rw [scanPieces]
  · simp only [printable, notBackslash]
    cases scanPieces rest <;> rfl
  all_goals simp_all

theorem scanPieces_escaped {e c : Char} (known : unescape? e = some c) (rest : List Char) :
    scanPieces ('\\' :: e :: rest) = (scanPieces rest).map (prepend (.char c)) := by
  have notUnit : e ≠ 'u' := by
    rintro rfl
    cases known
  rw [scanPieces]
  · rw [known]
    cases scanPieces rest <;> rfl
  · intro a b c d rest same
    exact absurd same notUnit

theorem scanPieces_unit {a b c d : Char} {code : Nat} (read : unit? a b c d = some code)
    (rest : List Char) :
    scanPieces ('\\' :: 'u' :: a :: b :: c :: d :: rest) =
      (scanPieces rest).map (prepend (.unit code)) := by
  rw [scanPieces, read]
  cases scanPieces rest <;> rfl

/-- A character is written as one piece. -/
theorem exists_piece (c : Char) : ∃ piece : Piece, piece.Spells c ∧ ∀ rest,
    scanPieces (escapeChar c ++ rest) = (scanPieces rest).map (prepend piece) := by
  unfold escapeChar
  split
  -- Seven characters have an escape of their own.
  iterate 7 exact ⟨_, spells_char _, scanPieces_escaped rfl⟩
  next notQuote notBackslash _ _ _ _ _ =>
    split
    next control =>
      obtain ⟨four, read⟩ := hexDigits_control _ control
      exact ⟨_, spells_control control, fun rest => by rw [four]; exact scanPieces_unit read rest⟩
    next printable =>
      exact ⟨_, spells_char _, scanPieces_plain notQuote notBackslash printable⟩

/-- The pieces of a string that is written up to its closing quote. -/
theorem exists_pieces (chars : List Char) : ∃ pieces : List Piece, joinPieces pieces = some chars ∧
    ∀ rest, scanPieces (chars.flatMap escapeChar ++ '"' :: rest) = some (pieces, rest) := by
  induction chars with
  | nil => exact ⟨[], by rw [joinPieces], fun rest => by simp [scanPieces]⟩
  | cons c chars ih =>
    obtain ⟨piece, spells, scanFirst⟩ := exists_piece c
    obtain ⟨pieces, joined, scanRest⟩ := ih
    refine ⟨piece :: pieces, by rw [spells, joined]; rfl, fun rest => ?_⟩
    rw [List.flatMap_cons, List.append_assoc, scanFirst, scanRest]
    rfl

theorem renderText_append (text : String) (rest : List Char) :
    renderText (some text) ++ rest = '"' :: (text.toList.flatMap escapeChar ++ '"' :: rest) := by
  unfold renderText
  simp only [List.cons_append, List.append_assoc, List.nil_append]

theorem scanText_escaped (text : String) (rest : List Char) :
    scanText (text.toList.flatMap escapeChar ++ '"' :: rest) = some (some text, rest) := by
  obtain ⟨pieces, joined, scan⟩ := exists_pieces text.toList
  simp only [scanText, scan]
  simp [joined]

/-! Values. -/

/-- A text of a value begins with a character that no blank and no bracket can be taken for. -/
theorem renderCompact_head {data : Data} (plain : data.IsPlain) :
    ∃ c tail, renderCompact data = c :: tail ∧ isBlank c = false ∧ c ≠ ']' := by
  cases data with
  | null => exact ⟨'n', ['u', 'l', 'l'], by rw [renderCompact]; rfl, by decide, by decide⟩
  | flag value =>
    cases value with
    | false => exact ⟨'f', ['a', 'l', 's', 'e'], by rw [renderCompact]; rfl, by decide, by decide⟩
    | true => exact ⟨'t', ['r', 'u', 'e'], by rw [renderCompact]; rfl, by decide, by decide⟩
  | number value => exact absurd plain (by simp [Data.IsPlain])
  | text value =>
    cases value with
    | none => exact absurd plain (by simp [Data.IsPlain])
    | some text =>
      have quoted := renderText_append text []
      rw [List.append_nil] at quoted
      exact ⟨'"', _, by rw [renderCompact, quoted], by decide, by decide⟩
  | list items =>
    exact ⟨'[', renderItems items ++ [']'], by rw [renderCompact]; rfl, by decide, by decide⟩
  | record members =>
    exact ⟨'{', renderMembers members ++ ['}'], by rw [renderCompact]; rfl, by decide, by decide⟩

theorem skipBlanks_cons {c : Char} (solid : isBlank c = false) (rest : List Char) :
    skipBlanks (c :: rest) = c :: rest := by
  simp [skipBlanks, solid]

theorem renderItems_cons (item next : Data) (items : List Data) :
    renderItems (item :: next :: items) = renderCompact item ++ ',' :: renderItems (next :: items) := by
  rw [renderItems]
  exact List.cons_ne_nil next items

theorem renderMembers_cons (name : Option String) (value : Data) (next : Option String × Data)
    (members : List (Option String × Data)) :
    renderMembers ((name, value) :: next :: members) =
      renderText name ++ ':' :: renderCompact value ++ ',' :: renderMembers (next :: members) := by
  rw [renderMembers]
  exact List.cons_ne_nil next members

theorem renderItems_head {item : Data} {items : List Data} (plain : Data.ArePlain (item :: items)) :
    ∃ c tail, renderItems (item :: items) = c :: tail ∧ isBlank c = false ∧ c ≠ ']' := by
  rw [Data.ArePlain] at plain
  obtain ⟨c, tail, rendered, solid, more⟩ := renderCompact_head plain.1
  cases items with
  | nil => exact ⟨c, tail, by rw [renderItems, rendered], solid, more⟩
  | cons next items => exact ⟨c, _, by rw [renderItems_cons, rendered, List.cons_append], solid, more⟩

theorem renderMembers_head (name : String) (value : Data) (members : List (Option String × Data)) :
    ∃ tail, renderMembers ((some name, value) :: members) = '"' :: tail := by
  cases members with
  | nil => exact ⟨_, by rw [renderMembers, renderText_append]⟩
  | cons member members =>
    exact ⟨_, by rw [renderMembers_cons, List.append_assoc, renderText_append]⟩

/-! What is read after each opening character and after each separator. -/

theorem scanValue_quote (fuel : Nat) (rest : List Char) :
    scanValue (fuel + 1) ('"' :: rest) =
      (scanText rest).map fun (text, rest) => (.text text, rest) := by
  rw [scanValue, skipBlanks_cons (by decide)]
  rfl

theorem scanValue_bracket {c : Char} (solid : isBlank c = false) (more : c ≠ ']') (fuel : Nat)
    (rest : List Char) :
    scanValue (fuel + 1) ('[' :: c :: rest) =
      (scanItems fuel (c :: rest)).map fun (items, rest) => (.list items, rest) := by
  rw [scanValue, skipBlanks_cons (by decide)]
  simp only [skipBlanks_cons solid]
  split
  next same => exact absurd (List.cons.inj same).1 more
  next => rfl

theorem scanValue_brace (fuel : Nat) (rest : List Char) :
    scanValue (fuel + 1) ('{' :: '"' :: rest) =
      (scanMembers fuel ('"' :: rest)).map fun (members, rest) => (.record members, rest) := by
  rw [scanValue, skipBlanks_cons (by decide)]
  rfl

section Items
variable {fuel : Nat} {input rest : List Char} {item : Data}

theorem scanItems_last (first : scanValue fuel input = some (item, ']' :: rest)) :
    scanItems (fuel + 1) input = some ([item], rest) := by
  rw [scanItems, first]
  rfl

theorem scanItems_next (first : scanValue fuel input = some (item, ',' :: rest)) :
    scanItems (fuel + 1) input =
      (scanItems fuel rest).map fun (items, rest) => (item :: items, rest) := by
  rw [scanItems, first]
  rfl

end Items

section Members
variable {fuel : Nat} {input rest : List Char} {member : Option String × Data}

theorem scanMembers_last (first : scanMember fuel input = some (member, '}' :: rest)) :
    scanMembers (fuel + 1) input = some ([member], rest) := by
  rw [scanMembers, first]
  rfl

theorem scanMembers_next (first : scanMember fuel input = some (member, ',' :: rest)) :
    scanMembers (fuel + 1) input =
      (scanMembers fuel rest).map fun (members, rest) => (member :: members, rest) := by
  rw [scanMembers, first]
  rfl

/-- The name of a member and the colon, before its value. -/
theorem scanMember_renderText {name : String} {value : Data}
    (second : scanValue fuel input = some (value, rest)) :
    scanMember (fuel + 1) (renderText (some name) ++ ':' :: input) =
      some ((some name, value), rest) := by
  rw [renderText_append, scanMember, skipBlanks_cons (by decide)]
  simp only [scanText_escaped, skipBlanks_cons (show isBlank ':' = false by decide), second]
  rfl

end Members

mutual

/-- Each step of reading is paid for by a character, so as many units of fuel as there are characters
are enough. -/
theorem scanValue_renderCompact : (data : Data) → data.IsPlain → ∀ (fuel : Nat) (rest : List Char),
    (renderCompact data).length ≤ fuel →
      scanValue fuel (renderCompact data ++ rest) = some (data, rest)
  | .null, _, fuel + 1, rest, _ => by
    rw [renderCompact]
    simp [scanValue, skipBlanks, isBlank]
  | .flag value, _, fuel + 1, rest, _ => by
    cases value <;> simp [renderCompact, renderFlag, scanValue, skipBlanks, isBlank]
  | .text (some text), _, fuel + 1, rest, _ => by
    rw [renderCompact, renderText_append, scanValue_quote, scanText_escaped]
    rfl
  | .list [], _, fuel + 1, rest, _ => by
    simp [renderCompact, renderItems, scanValue, skipBlanks, isBlank]
  | .list (item :: items), plain, fuel + 1, rest, enough => by
    rw [Data.IsPlain] at plain
    rw [renderCompact] at enough ⊢
    obtain ⟨c, tail, rendered, solid, more⟩ := renderItems_head plain
    have scanned := scanItems_renderItems item items plain fuel rest (by simp at enough; omega)
    rw [rendered] at scanned ⊢
    simp only [List.cons_append, List.append_assoc, List.nil_append] at scanned ⊢
    rw [scanValue_bracket solid more, scanned]
    rfl
  | .record [], _, fuel + 1, rest, _ => by
    simp [renderCompact, renderMembers, scanValue, skipBlanks, isBlank]
  | .record ((some name, value) :: members), plain, fuel + 1, rest, enough => by
    rw [Data.IsPlain] at plain
    rw [renderCompact] at enough ⊢
    have scanned := scanMembers_renderMembers name value members plain fuel rest
      (by simp at enough; omega)
    obtain ⟨tail, rendered⟩ := renderMembers_head name value members
    rw [rendered] at scanned ⊢
    simp only [List.cons_append, List.append_assoc, List.nil_append] at scanned ⊢
    rw [scanValue_brace, scanned]
    rfl
  | .record ((none, _) :: _), plain, _, _, _ => by
    simp [Data.IsPlain, Data.AreMembersPlain] at plain
  | data, plain, 0, rest, enough => by
    obtain ⟨c, tail, rendered, -⟩ := renderCompact_head plain
    rw [rendered] at enough
    exact absurd enough (by simp)

theorem scanItems_renderItems : (item : Data) → (items : List Data) → Data.ArePlain (item :: items) →
    ∀ (fuel : Nat) (rest : List Char), (renderItems (item :: items)).length < fuel →
      scanItems fuel (renderItems (item :: items) ++ ']' :: rest) = some (item :: items, rest)
  | item, [], plain, fuel + 1, rest, enough => by
    rw [Data.ArePlain] at plain
    rw [renderItems] at enough ⊢
    exact scanItems_last (scanValue_renderCompact item plain.1 fuel _ (by omega))
  | item, next :: items, plain, fuel + 1, rest, enough => by
    rw [Data.ArePlain] at plain
    rw [renderItems_cons] at enough ⊢
    simp only [List.length_append, List.length_cons] at enough
    rw [List.append_assoc, List.cons_append]
    rw [scanItems_next (scanValue_renderCompact item plain.1 fuel _ (by omega)),
      scanItems_renderItems next items plain.2 fuel rest (by omega)]
    rfl

theorem scanMembers_renderMembers : (name : String) → (value : Data) →
    (members : List (Option String × Data)) → Data.AreMembersPlain ((some name, value) :: members) →
    ∀ (fuel : Nat) (rest : List Char), (renderMembers ((some name, value) :: members)).length < fuel →
      scanMembers fuel (renderMembers ((some name, value) :: members) ++ '}' :: rest) =
        some ((some name, value) :: members, rest)
  | name, value, [], plain, fuel + 2, rest, enough => by
    rw [Data.AreMembersPlain] at plain
    rw [renderMembers] at enough ⊢
    simp only [List.length_append, List.length_cons] at enough
    rw [List.append_assoc, List.cons_append]
    exact scanMembers_last
      (scanMember_renderText (scanValue_renderCompact value plain.2.1 fuel _ (by omega)))
  | name, value, (some other, next) :: members, plain, fuel + 2, rest, enough => by
    rw [Data.AreMembersPlain] at plain
    rw [renderMembers_cons] at enough ⊢
    simp only [List.length_append, List.length_cons] at enough
    simp only [List.append_assoc, List.cons_append]
    rw [scanMembers_next
        (scanMember_renderText (scanValue_renderCompact value plain.2.1 fuel _ (by omega))),
      scanMembers_renderMembers other next members plain.2.2 (fuel + 1) rest (by omega)]
    rfl

end

/-- A plain document reads back from its compact text. -/
theorem parse_compact {data : Data} (plain : data.IsPlain) : parse (compact data) = some data := by
  have scanned := scanValue_renderCompact data plain (scanFuel (renderCompact data)) []
    (by unfold scanFuel; omega)
  rw [List.append_nil] at scanned
  rw [parse, compact, String.toList_ofList, scanned]
  rfl

end Json

end TaintTracking
