/-!
# Numerals

Reading integers from text and writing them. A numeral is an optional sign and at least one digit,
ASCII digits only, with nothing before or after; a plus is always allowed and a minus only where
the number may be negative. A numeral whose value is out of range is no numeral.
-/

namespace Console7800.Text

/-- The value of a digit in bases up to sixteen, letters in either case. -/
def digitValue? (radix : Nat) (c : Char) : Option Nat :=
  let value? :=
    if '0' ≤ c ∧ c ≤ '9' then some (c.toNat - '0'.toNat)
    else if 'a' ≤ c ∧ c ≤ 'f' then some (c.toNat - 'a'.toNat + 10)
    else if 'A' ≤ c ∧ c ≤ 'F' then some (c.toNat - 'A'.toNat + 10)
    else none
  value?.filter (· < radix)

/-- The value of a run of digits read after digits worth `value`. Values past `limit` count as
`limit`. -/
def digitsValue? (radix limit value : Nat) : List Char → Option Nat
  | [] => some value
  | c :: rest => (digitValue? radix c).bind fun digit =>
    digitsValue? radix limit (min limit (value * radix + digit)) rest

/-- The value of a run of at least one digit, or `limit` if that is less. -/
def magnitude? (radix limit : Nat) : List Char → Option Nat
  | [] => none
  | digits => digitsValue? radix limit 0 digits

/-- An unsigned numeral below `bound`. -/
def unsigned? (radix bound : Nat) (text : List Char) : Option Nat :=
  let digits := match text with
    | '+' :: rest => rest
    | _ => text
  (magnitude? radix bound digits).filter (· < bound)

/-- A signed decimal numeral of `bits` bits in two's complement. -/
def signed? (bits : Nat) (text : List Char) : Option Int :=
  let value? : Option Int := match text with
    | '-' :: rest => (magnitude? 10 (Nat.pow 2 bits) rest).map fun n => -(n : Int)
    | '+' :: rest => (magnitude? 10 (Nat.pow 2 bits) rest).map fun n => (n : Int)
    | _ => (magnitude? 10 (Nat.pow 2 bits) text).map fun n => (n : Int)
  let half : Int := Nat.pow 2 (bits - 1)
  value?.filter fun n => -half ≤ n ∧ n < half

/-- A hexadecimal digit, upper case. -/
def upperHexDigit (n : Nat) : Char :=
  if n < 10 then Char.ofNat ('0'.toNat + n) else Char.ofNat ('A'.toNat + (n - 10))

/-- The last `width` hexadecimal digits of a number, upper case. -/
def upperHex (width n : Nat) : List Char :=
  match width with
  | 0 => []
  | width + 1 => upperHex width (n / 16) ++ [upperHexDigit (n % 16)]

/-- A hexadecimal digit, lower case. -/
def lowerHexDigit (n : Nat) : Char :=
  if n < 10 then Char.ofNat ('0'.toNat + n) else Char.ofNat ('a'.toNat + (n - 10))

/-- A byte as two hexadecimal digits, lower case. -/
def byteHex (byte : UInt8) : List Char :=
  [lowerHexDigit (byte.toNat / 16), lowerHexDigit (byte.toNat % 16)]

end Console7800.Text
