import Console7800.Bus
import Console7800.Cpu.Instruction

/-!
# Operands

Fetching from the program counter, the stack, and the addresses that the modes name. Pointers are
read from two consecutive addresses with no wrap inside a page.
-/

namespace Console7800

/-- The byte at the program counter, which moves past it. -/
def Registers.fetch (r : Registers) : Access (UInt8 × Registers) := do
  let byte ← Access.get r.pc
  return (byte, { r with pc := r.pc + 1 })

/-- The word at the program counter, which moves past it. -/
def Registers.fetchWord (r : Registers) : Access (UInt16 × Registers) := do
  let (low, r) ← r.fetch
  let (high, r) ← r.fetch
  return (wordOf low high, r)

/-- Put a byte on the stack. -/
def Registers.pushByte (r : Registers) (value : UInt8) : Access Registers := do
  let (address, r) := r.push
  Access.put address value
  return r

/-- Put a word on the stack, high byte first. -/
def Registers.pushWord (r : Registers) (value : UInt16) : Access Registers := do
  let r ← r.pushByte (highByte value)
  r.pushByte (lowByte value)

/-- Take a byte off the stack. -/
def Registers.pullByte (r : Registers) : Access (UInt8 × Registers) := do
  let (address, r) := r.pull
  let value ← Access.get address
  return (value, r)

/-- Take a word off the stack, low byte first. -/
def Registers.pullWord (r : Registers) : Access (UInt16 × Registers) := do
  let (low, r) ← r.pullByte
  let (high, r) ← r.pullByte
  return (wordOf low high, r)

/-- The address a mode names, and whether indexing took it out of its page. -/
structure Operand where
  address : UInt16
  crossed : Bool := false

namespace Operand

/-- The address `index` past `base`. -/
def indexed (base : UInt16) (index : UInt8) : Operand where
  address := base + index.toUInt16
  crossed := highByte base != highByte (base + index.toUInt16)

/-- The extra cycle that reads pay for leaving the page. -/
def penalty (operand : Operand) : Nat := operand.crossed.toNat

end Operand

/-- The operand of an instruction whose opcode byte has been fetched. -/
def Mode.resolve (mode : Mode) (r : Registers) : Access (Operand × Registers) := do
  match mode with
  | .immediate => return (⟨r.pc, false⟩, { r with pc := r.pc + 1 })
  | .zeroPage =>
    let (base, r) ← r.fetch
    return (⟨base.toUInt16, false⟩, r)
  | .zeroPageX =>
    let (base, r) ← r.fetch
    return (⟨(base + r.x).toUInt16, false⟩, r)
  | .zeroPageY =>
    let (base, r) ← r.fetch
    return (⟨(base + r.y).toUInt16, false⟩, r)
  | .absolute =>
    let (base, r) ← r.fetchWord
    return (⟨base, false⟩, r)
  | .absoluteX =>
    let (base, r) ← r.fetchWord
    return (.indexed base r.x, r)
  | .absoluteY =>
    let (base, r) ← r.fetchWord
    return (.indexed base r.y, r)
  | .indexedIndirect =>
    let (base, r) ← r.fetch
    let address ← Access.getWord (base + r.x).toUInt16
    return (⟨address, false⟩, r)
  | .indirectIndexed =>
    let (base, r) ← r.fetch
    let address ← Access.getWord base.toUInt16
    return (.indexed address r.y, r)

end Console7800
