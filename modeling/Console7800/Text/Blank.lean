/-!
# Blanks and lines

Trimming takes away the characters with the Unicode property White_Space. A line ends at a line
feed, and one carriage return before it belongs to the end.
-/

namespace Console7800.Text

/-- The characters with the property White_Space. -/
def isBlank (c : Char) : Bool :=
  c = ' ' || ('\t' ≤ c && c ≤ '\r') || c = '\u0085' || c = '\u00a0' || c = '\u1680' ||
    ('\u2000' ≤ c && c ≤ '\u200a') || c = '\u2028' || c = '\u2029' || c = '\u202f' ||
    c = '\u205f' || c = '\u3000'

/-- The text without what `drop` holds of at its end. -/
def dropEndWhile (drop : Char → Bool) (text : List Char) : List Char :=
  (text.reverse.dropWhile drop).reverse

def trim (text : List Char) : List Char := dropEndWhile isBlank (text.dropWhile isBlank)

/-- Put a character in front of a text that was cut at its line feeds. -/
def consLine (c : Char) (lines : List (List Char)) : List (List Char) :=
  if c = '\n' then [] :: lines
  else match lines with
    | [] => [[c]]
    | line :: lines => (c :: line) :: lines

/-- Cut at every line feed; the last piece is what follows the last one. -/
def splitLines (text : List Char) : List (List Char) := text.foldr consLine [[]]

/-- A line without the one carriage return that may end it. -/
def dropReturn (line : List Char) : List Char :=
  match line.reverse with
  | '\r' :: rest => rest.reverse
  | _ => line

/-- Drop the return of every line but the last, and the last line if it is empty. -/
def finishLines : List (List Char) → List (List Char)
  | [] => []
  | [last] => if last.isEmpty then [] else [last]
  | line :: lines => dropReturn line :: finishLines lines

/-- The lines of a text. -/
def lines (text : List Char) : List (List Char) := finishLines (splitLines text)

end Console7800.Text
