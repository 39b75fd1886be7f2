import Console7800.Cpu.Instruction

/-!
# Arithmetic

What the arithmetic unit makes of a byte, the accumulator and the status. In decimal mode addition
takes zero from the binary sum, with its ninth bit, and negative and overflow from the high digit
before it is brought below ten; subtraction takes every flag from the binary difference.
-/

namespace Console7800.Arithmetic

def borrowOf (p : Status) : Nat := (!p.carry).toNat

/-- Binary addition with carry. -/
def addBinary (p : Status) (a data : UInt8) : UInt8 × Status :=
  let sum := a.toNat + data.toNat + p.carry.toNat
  let result := UInt8.ofNat sum
  let p := { p with
    carry := decide (255 < sum)
    overflow := ~~~(a ^^^ data) &&& (a ^^^ result) &&& 0x80 != 0 }
  (result, p.describe result)

/-- The byte whose digits are the low four bits of `high` and of `low`. -/
def digits (high low : Nat) : UInt8 := UInt8.ofNat (high % 16 * 16 + low % 16)

/-- Decimal addition with carry, digit by digit. -/
def addDecimal (p : Status) (a data : UInt8) : UInt8 × Status :=
  let sum := a.toNat + data.toNat + p.carry.toNat
  let units := a.toNat % 16 + data.toNat % 16 + p.carry.toNat
  let tens := a.toNat / 16 + data.toNat / 16
  let (low, high) := if 9 < units then (units + 6, tens + 1) else (units, tens)
  let adjusted := if 9 < high then high + 6 else high
  (digits adjusted low, { p with
    zero := sum == 0
    negative := high % 16 / 8 == 1
    overflow := ~~~(a ^^^ data) &&& (UInt8.ofNat (high * 16) ^^^ a) &&& 0x80 != 0
    carry := decide (15 < adjusted) })

def add (p : Status) (a data : UInt8) : UInt8 × Status :=
  if p.decimal then addDecimal p a data else addBinary p a data

/-- The difference with borrow as a byte, and the flags of binary subtraction. -/
def subtractBinary (p : Status) (a data : UInt8) : UInt8 × Status :=
  let result := a - data - UInt8.ofNat (borrowOf p)
  let p := { p with
    carry := decide (data.toNat + borrowOf p ≤ a.toNat)
    overflow := (a ^^^ data) &&& (a ^^^ result) &&& 0x80 != 0 }
  (result, p.describe result)

/-- Bring a digit difference that left 0 to 9 back by six, with a borrow for the next digit. -/
def settle (digit : Int) : Int × Int := if digit < 0 ∨ 9 < digit then (digit - 6, 1) else (digit, 0)

/-- The digits of decimal subtraction with borrow. -/
def subtractDigits (p : Status) (a data : UInt8) : UInt8 :=
  let (low, borrowed) := settle ((a.toNat % 16 : Nat) - (data.toNat % 16 : Nat) - borrowOf p)
  let (high, _) := settle ((a.toNat / 16 : Nat) - (data.toNat / 16 : Nat) - borrowed)
  digits (high % 16).toNat (low % 16).toNat

def subtract (p : Status) (a data : UInt8) : UInt8 × Status :=
  let (result, flags) := subtractBinary p a data
  if p.decimal then (subtractDigits p a data, flags) else (result, flags)

/-- The flags a comparison of `register` with `data` leaves. -/
def compare (p : Status) (register data : UInt8) : Status :=
  { p with carry := decide (data ≤ register) }.describe (register - data)

/-- The flags a bit test of `data` against the accumulator leaves. -/
def bitTest (p : Status) (a data : UInt8) : Status :=
  { p with zero := data &&& a == 0, overflow := data &&& 0x40 != 0, negative := data &&& 0x80 != 0 }

end Console7800.Arithmetic

namespace Console7800

/-- The changed byte and the status after it. -/
def Modification.apply (op : Modification) (p : Status) (data : UInt8) : UInt8 × Status :=
  let carryOut (bit : UInt8) : Status := { p with carry := data &&& bit != 0 }
  let (result, p) := match op with
    | .shiftLeft => (data <<< 1, carryOut 0x80)
    | .shiftRight => (data >>> 1, carryOut 0x01)
    | .rotateLeft => (data <<< 1 ||| p.carry.toUInt8, carryOut 0x80)
    | .rotateRight => (data >>> 1 ||| (if p.carry then 0x80 else 0), carryOut 0x01)
    | .increment => (data + 1, p)
    | .decrement => (data - 1, p)
  (result, p.describe result)

/-- The registers after a read instruction got the byte `data`. -/
def ReadOp.apply (op : ReadOp) (data : UInt8) (r : Registers) : Registers :=
  match op with
  | .load target => r.assign target data
  | .and => r.assign .a (r.a &&& data)
  | .or => r.assign .a (r.a ||| data)
  | .xor => r.assign .a (r.a ^^^ data)
  | .add => let (a, p) := Arithmetic.add r.p r.a data; { r with a, p }
  | .subtract => let (a, p) := Arithmetic.subtract r.p r.a data; { r with a, p }
  | .compare register => { r with p := Arithmetic.compare r.p (r.get register) data }
  | .test => { r with p := Arithmetic.bitTest r.p r.a data }

end Console7800
