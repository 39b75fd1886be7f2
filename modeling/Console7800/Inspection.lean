import Console7800.Text.Numeral

/-!
# Inspection

Values that a part of the machine shows under a path name, and the addresses a user types.
-/

namespace Console7800

/-- A shown value, by its kind. -/
inductive Reading where
  | flag (value : Bool)
  | byte (value : UInt8)
  | word (value : UInt16)
  | number (value : Nat)
  | counter (value : Nat)
  | text (value : String)
  deriving Repr, DecidableEq

/-- Bytes and words are shown in hexadecimal behind a dollar sign. -/
def Reading.show : Reading → String
  | .flag value => if value then "true" else "false"
  | .byte value => String.ofList ('$' :: Text.upperHex 2 value.toNat)
  | .word value => String.ofList ('$' :: Text.upperHex 4 value.toNat)
  | .number value => toString value
  | .counter value => toString value
  | .text value => value

/-- What a part of type `α` shows: a value under each path, in the order they are listed. -/
abbrev Gauges (α : Type) := List (String × (α → Reading))

namespace Gauges

variable {α : Type}

def paths (gauges : Gauges α) : List String := gauges.map (·.1)

def read? (gauges : Gauges α) (part : α) (path : String) : Option Reading :=
  (gauges.lookup path).map (· part)

end Gauges

/-- An address as users type it: decimal, or hexadecimal behind `0x`, `0X` or a dollar sign. -/
def parseAddress? (text : String) : Option UInt16 :=
  let value? := match text.toList with
    | '0' :: 'x' :: digits => Text.unsigned? 16 65536 digits
    | '0' :: 'X' :: digits => Text.unsigned? 16 65536 digits
    | '$' :: digits => Text.unsigned? 16 65536 digits
    | digits => Text.unsigned? 10 65536 digits
  value?.map UInt16.ofNat

end Console7800
