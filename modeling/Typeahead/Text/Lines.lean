/-!
# Lines, columns and pieces

Where the lines of a text start and stop, how wide its characters are in an editor, and
what stands between its separators.
-/

namespace Typeahead.Text

/-! ## Lines

Lines end at a carriage return with a line feed, at a lone carriage return, or
at a lone line feed. The end of a line is the offset before its break, and the
next line starts behind it; the last line ends with the text.
-/

/-- The offsets of a line, from its first character to before its break. -/
structure Line where
  start : Nat
  stop : Nat
  deriving DecidableEq, Repr

/-- The lines of a text that is read from offset `pos` on, the first of them begun at `start`. -/
def linesFrom (start pos : Nat) : List Char → List Line
  | [] => [⟨start, pos⟩]
  | '\r' :: '\n' :: rest => ⟨start, pos⟩ :: linesFrom (pos + 2) (pos + 2) rest
  | '\r' :: rest => ⟨start, pos⟩ :: linesFrom (pos + 1) (pos + 1) rest
  | '\n' :: rest => ⟨start, pos⟩ :: linesFrom (pos + 1) (pos + 1) rest
  | _ :: rest => linesFrom start (pos + 1) rest

def lines (cs : List Char) : List Line :=
  linesFrom 0 0 cs

/-- A carriage return with a line feed is one break. -/
example : lines ['a', '\r', '\n', '\n', '\r', 'b'] = [⟨0, 1⟩, ⟨3, 3⟩, ⟨4, 4⟩, ⟨5, 6⟩] := by decide

/-! ## Columns

Editors count columns in UTF-16 units: a code point above U+FFFF takes two
units, every other one takes one.
-/

def units16 (c : Char) : Nat :=
  if 0xFFFF < c.toNat then 2 else 1

def width16 : List Char → Nat
  | [] => 0
  | c :: rest => units16 c + width16 rest

/-- How many characters to pass until at least `units` units lie behind, or the
text ends. A column inside a surrogate pair passes the whole character. -/
def advance16 (units : Nat) : List Char → Nat
  | [] => 0
  | c :: rest => if units = 0 then 0 else advance16 (units - units16 c) rest + 1

example : advance16 2 ['a', '😀', 'b'] = 2 := by decide

theorem units16_pos (c : Char) : 0 < units16 c := by
  unfold units16; split <;> omega

theorem width16_append (xs ys : List Char) : width16 (xs ++ ys) = width16 xs + width16 ys := by
  induction xs with
  | nil => simp [width16]
  | cons c rest ih => simp [width16, ih, Nat.add_assoc]

theorem advance16_le_length (units : Nat) (cs : List Char) : advance16 units cs ≤ cs.length := by
  induction cs generalizing units with
  | nil => simp [advance16]
  | cons c rest ih =>
    simp only [advance16, List.length_cons]
    split
    · omega
    · have := ih (units - units16 c); omega

/-! ## Pieces

A text with `n` separators is cut into `n + 1` pieces, some of them maybe
empty; joined with the separator they give the text back.
-/

def splitOn (separator : Char) : List Char → List (List Char)
  | [] => [[]]
  | c :: rest =>
    if c = separator then [] :: splitOn separator rest
    else match splitOn separator rest with
      | [] => [[c]]
      | piece :: pieces => (c :: piece) :: pieces

def joinWith (separator : Char) : List (List Char) → List Char
  | [] => []
  | [piece] => piece
  | piece :: next :: rest => piece ++ separator :: joinWith separator (next :: rest)

theorem splitOn_ne_nil (separator : Char) (cs : List Char) : splitOn separator cs ≠ [] := by
  cases cs with
  | nil => simp [splitOn]
  | cons c rest =>
    simp only [splitOn]
    split
    · simp
    · split <;> simp

/-- **Cutting loses nothing.** -/
theorem joinWith_splitOn (separator : Char) (cs : List Char) :
    joinWith separator (splitOn separator cs) = cs := by
  induction cs with
  | nil => rfl
  | cons c rest ih =>
    simp only [splitOn]
    cases hs : splitOn separator rest with
    | nil => exact absurd hs (splitOn_ne_nil separator rest)
    | cons piece pieces =>
      rw [hs] at ih
      split
      · next h => simp [joinWith, ih, h]
      · cases pieces with
        | nil => simpa [joinWith] using ih
        | cons next more => simpa [joinWith] using ih

end Typeahead.Text
