/-!
# Text from bytes

UTF-8 with something in place of each mistake. A mistake is as long as the bytes that could still
have become a character, and at least one byte.
-/

namespace Console7800.Text

/-- What a lead byte announces: how many bytes follow it, the range of the first of them, and the
bits that it carries itself. -/
structure Lead where
  following : Nat
  low : UInt8 := 0x80
  high : UInt8 := 0xBF
  bits : Nat

def lead? (byte : UInt8) : Option Lead :=
  if byte < 0x80 then some { following := 0, bits := byte.toNat }
  else if byte < 0xC2 then none
  else if byte < 0xE0 then some { following := 1, bits := byte.toNat % 32 }
  else if byte < 0xF0 then
    some {
      following := 2
      low := if byte = 0xE0 then 0xA0 else 0x80
      high := if byte = 0xED then 0x9F else 0xBF
      bits := byte.toNat % 16 }
  else if byte < 0xF5 then
    some {
      following := 3
      low := if byte = 0xF0 then 0x90 else 0x80
      high := if byte = 0xF4 then 0x8F else 0xBF
      bits := byte.toNat % 8 }
  else none

/-- Read what follows a lead byte: the character, or nothing at the first byte that does not fit,
and the bytes left. -/
def finishChar (lead : Lead) (bytes : List UInt8) : Option Char × List UInt8 :=
  match bytes, lead with
  | bytes, { following := 0, bits, .. } => (some (Char.ofNat bits), bytes)
  | [], _ => (none, [])
  | byte :: rest, { following := following + 1, low, high, bits } =>
    if low ≤ byte ∧ byte ≤ high then
      finishChar { following, bits := bits * 64 + byte.toNat % 64 } rest
    else (none, byte :: rest)

theorem length_finishChar (lead : Lead) (bytes : List UInt8) :
    (finishChar lead bytes).2.length ≤ bytes.length := by
  fun_induction finishChar lead bytes with
  | case3 _ _ _ _ _ _ _ ih => exact Nat.le_succ_of_le ih
  | _ => exact Nat.le_refl _

/-- The characters of a byte string, with U+FFFD in place of each mistake. -/
def decodeLossy : List UInt8 → List Char
  | [] => []
  | byte :: rest =>
    match lead? byte with
    | none => '\uFFFD' :: decodeLossy rest
    | some lead =>
      have := length_finishChar lead rest
      ((finishChar lead rest).1.getD '\uFFFD') :: decodeLossy (finishChar lead rest).2
termination_by bytes => bytes.length

end Console7800.Text
