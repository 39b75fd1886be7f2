/-!
# Processor status

Eight one-bit flags. `ofByte` and `toByte` are the form in which the stack holds them.
-/

namespace Console7800

structure Status where
  carry : Bool := false
  zero : Bool := false
  irqDisable : Bool := false
  decimal : Bool := false
  brk : Bool := false
  reserved : Bool := false
  overflow : Bool := false
  negative : Bool := false
  deriving Repr, DecidableEq, Inhabited

/-- The flags that instructions test or set one at a time. -/
inductive Flag where
  | carry | zero | irqDisable | decimal | overflow | negative
  deriving Repr, DecidableEq

namespace Status

def ofByte (byte : UInt8) : Status where
  carry := byte &&& 0x01 != 0
  zero := byte &&& 0x02 != 0
  irqDisable := byte &&& 0x04 != 0
  decimal := byte &&& 0x08 != 0
  brk := byte &&& 0x10 != 0
  reserved := byte &&& 0x20 != 0
  overflow := byte &&& 0x40 != 0
  negative := byte &&& 0x80 != 0

def toByte (p : Status) : UInt8 :=
  p.carry.toUInt8 + p.zero.toUInt8 * 0x02 + p.irqDisable.toUInt8 * 0x04 +
    p.decimal.toUInt8 * 0x08 + p.brk.toUInt8 * 0x10 + p.reserved.toUInt8 * 0x20 +
    p.overflow.toUInt8 * 0x40 + p.negative.toUInt8 * 0x80

@[simp] theorem ofByte_toByte (p : Status) : ofByte p.toByte = p := by
  obtain ⟨c, z, i, d, b, r, v, n⟩ := p
  cases c <;> cases z <;> cases i <;> cases d <;> cases b <;> cases r <;> cases v <;> cases n <;>
    rfl

@[simp] theorem toByte_ofByte (byte : UInt8) : (ofByte byte).toByte = byte := by
  have all : ∀ n : Fin 256, (ofByte (UInt8.ofNat n)).toByte = UInt8.ofNat n := by decide +kernel
  simpa using all ⟨byte.toNat, byte.toNat_lt⟩

def test (p : Status) : Flag → Bool
  | .carry => p.carry
  | .zero => p.zero
  | .irqDisable => p.irqDisable
  | .decimal => p.decimal
  | .overflow => p.overflow
  | .negative => p.negative

def set (p : Status) (flag : Flag) (value : Bool) : Status :=
  match flag with
  | .carry => { p with carry := value }
  | .zero => { p with zero := value }
  | .irqDisable => { p with irqDisable := value }
  | .decimal => { p with decimal := value }
  | .overflow => { p with overflow := value }
  | .negative => { p with negative := value }

/-- Zero and negative as they describe `value`. -/
def describe (p : Status) (value : UInt8) : Status :=
  { p with zero := value == 0, negative := value &&& 0x80 != 0 }

end Status
end Console7800
