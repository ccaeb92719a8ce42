/-!
Positions in a text, counted in the bytes of its UTF-8 form, and the pieces between two of them. A
position within a character bounds no piece.
-/

namespace TaintTracking.Text

def byteLength (text : List Char) : Nat := text.foldl (· + ·.utf8Size) 0

/-- What stands before a position and from it on. -/
def cutAt? : Nat → List Char → Option (List Char × List Char)
  | 0, text => some ([], text)
  | _ + 1, [] => none
  | position + 1, c :: rest =>
    if c.utf8Size ≤ position + 1 then do
      let (before, after) ← cutAt? (position + 1 - c.utf8Size) rest
      return (c :: before, after)
    else none

def slice? (start stop : Nat) (text : List Char) : Option (List Char) := do
  let (_, rest) ← cutAt? start text
  let (piece, _) ← cutAt? (stop - start) rest
  return piece

/-- The first character that is one of the given ones: its position, if that of the text is known,
the character, and what follows. -/
def seek (sought : List Char) : Nat → List Char → Option (Nat × Char × List Char)
  | _, [] => none
  | position, c :: rest =>
    if sought.contains c then some (position, c, rest)
    else seek sought (position + c.utf8Size) rest

end TaintTracking.Text
