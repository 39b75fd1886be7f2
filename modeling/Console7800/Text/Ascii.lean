import Console7800.Cells

/-!
# ASCII text as bytes
-/

namespace Console7800.Text

/-- The bytes of a text whose characters are all ASCII. -/
def asciiBytes (text : String) : Bytes :=
  (text.toList.map fun c => UInt8.ofNat c.toNat).toArray

/-- Letters in lower case, ASCII only. -/
def asciiLower (text : List Char) : List Char := text.map Char.toLower

end Console7800.Text
