import Console7800.Cpu.Arithmetic
import Console7800.Cpu.Operand

/-!
# The processor

`Cpu.step` runs one instruction as an `Access` and says what it cost; reset and the interrupts are
accesses too. Two latches watch the instructions: `halfCycle` is set by a zero-page bit test of the
light-sensor latch, which sits on the half-speed bus, and `highScoreEntered` by a jump to an entry
point of the high-score cartridge.
-/

namespace Console7800

def nmiVector : UInt16 := 0xFFFA

def resetVector : UInt16 := 0xFFFC

def irqVector : UInt16 := 0xFFFE

/-- The light-sensor latch that a bit test pays half a cycle more to see. -/
def slowLatch : UInt16 := 0x000C

/-- The addresses at which the high-score cartridge is entered. -/
def highScoreEntries : List UInt16 := [0x3FCF, 0x3FFD]

structure Cpu where
  registers : Registers := {}
  halfCycle : Bool := false
  highScoreEntered : Bool := false
  opcode : UInt8 := 0
  instructions : Nat := 0
  deriving Repr, DecidableEq, Inhabited

/-- What an instruction leaves besides its writes: the cycles past its base cost, and whether it set
one of the latches. -/
structure Outcome where
  registers : Registers
  extra : Nat := 0
  halfCycle : Bool := false
  entered : Bool := false

/-- A jump, which the high-score latch watches. -/
def Registers.jump (r : Registers) (target : UInt16) : Outcome where
  registers := { r with pc := target }
  entered := highScoreEntries.contains target

/-- The address `offset` away from `pc`, the offset read as signed. -/
def branchTarget (pc : UInt16) (offset : UInt8) : UInt16 :=
  if offset < 0x80 then pc + offset.toUInt16 else pc + offset.toUInt16 - 256

/-- A taken branch costs one cycle, or two if it leaves the page of the next instruction. -/
def Registers.branch (r : Registers) (offset : UInt8) : Outcome :=
  let target := branchTarget r.pc offset
  { registers := { r with pc := target }
    extra := if highByte r.pc = highByte target then 1 else 2 }

namespace Instruction

/-- Run an instruction whose opcode byte has been fetched. -/
def execute (instruction : Instruction) (r : Registers) : Access Outcome := do
  match instruction with
  | .read op mode =>
    let (operand, r) ← mode.resolve r
    let data ← Access.get operand.address
    return {
      registers := op.apply data r
      extra := operand.penalty
      halfCycle := op == .test && mode == .zeroPage && operand.address == slowLatch }
  | .store source mode =>
    let (operand, r) ← mode.resolve r
    Access.put operand.address (r.get source)
    return { registers := r }
  | .modify op mode =>
    let (operand, r) ← mode.resolve r
    let data ← Access.get operand.address
    let (result, p) := op.apply r.p data
    Access.put operand.address result
    return { registers := { r with p } }
  | .adjust op register =>
    let (result, p) := op.apply r.p (r.get register)
    return { registers := { r with p }.set register result }
  | .transfer source target => return { registers := r.assign target (r.get source) }
  | .tsx => return { registers := r.assign .x r.s }
  | .txs => return { registers := { r with s := r.x } }
  | .pha =>
    let r ← r.pushByte r.a
    return { registers := r }
  | .php =>
    let r ← r.pushByte r.p.toByte
    return { registers := r }
  | .pla =>
    let (value, r) ← r.pullByte
    return { registers := r.assign .a value }
  | .plp =>
    let (value, r) ← r.pullByte
    return { registers := { r with p := .ofByte value } }
  | .jmp =>
    let (target, r) ← r.fetchWord
    return r.jump target
  | .jmpIndirect =>
    let (pointer, r) ← r.fetchWord
    let target ← Access.getWord pointer
    return r.jump target
  | .jsr =>
    let (target, r) ← r.fetchWord
    let r ← r.pushWord (r.pc - 1)
    return r.jump target
  | .rts =>
    let (target, r) ← r.pullWord
    return { registers := { r with pc := target + 1 } }
  | .rti =>
    let (p, r) ← r.pullByte
    let (target, r) ← { r with p := .ofByte p }.pullWord
    return { registers := { r with pc := target } }
  | .brk =>
    let r := { r with pc := r.pc + 1, p := { r.p with brk := true } }
    let r ← r.pushWord r.pc
    let r ← r.pushByte r.p.toByte
    let target ← Access.getWord irqVector
    return { registers := { r with pc := target, p := { r.p with irqDisable := true } } }
  | .branch flag wanted =>
    let (offset, r) ← r.fetch
    return if r.p.test flag = wanted then r.branch offset else { registers := r }
  | .assign flag value => return { registers := { r with p := r.p.set flag value } }
  | .nop => return { registers := r }

end Instruction

namespace Cpu

/-- Run one instruction and say how many cycles it took. -/
def step (cpu : Cpu) : Access (Nat × Cpu) := do
  let (byte, r) ← cpu.registers.fetch
  match Opcode.ofByte? byte with
  | none =>
    return (0, { cpu with
      registers := r, halfCycle := false, opcode := byte, instructions := cpu.instructions + 1 })
  | some opcode =>
    let outcome ← opcode.instruction.execute r
    return (opcode.cycles + outcome.extra, {
      registers := outcome.registers
      halfCycle := outcome.halfCycle
      highScoreEntered := cpu.highScoreEntered || outcome.entered
      opcode := byte
      instructions := cpu.instructions + 1 })

/-- The registers as after power-on. The latch of the high-score cartridge and the instruction count
stay. -/
def clear (cpu : Cpu) : Cpu := { cpu with registers := {}, halfCycle := false }

/-- Forget that the high-score cartridge was entered. -/
def clearHighScore (cpu : Cpu) : Cpu := { cpu with highScoreEntered := false }

/-- What the start of a program costs. -/
def resetCycles : Nat := 6

/-- What taking an interrupt costs, a masked one included. -/
def interruptCycles : Nat := 7

/-- Start the program that the reset vector names. -/
def restart (cpu : Cpu) : Access (Nat × Cpu) := do
  let pc ← Access.getWord resetVector
  let p : Status := { irqDisable := true, reserved := true, zero := true }
  return (resetCycles, { cpu with registers := { cpu.registers with pc, p } })

/-- Clear the registers and start the program that the reset vector names. -/
def reset (cpu : Cpu) : Access (Nat × Cpu) := cpu.clear.restart

/-- Save the program counter and the status, then go where `vector` says. -/
def interruptTo (cpu : Cpu) (vector : UInt16) : Access Cpu := do
  let r ← cpu.registers.pushWord cpu.registers.pc
  let r := { r with p := { r.p with brk := false } }
  let r ← r.pushByte r.p.toByte
  let pc ← Access.getWord vector
  return { cpu with registers := { r with pc, p := { r.p with irqDisable := true } } }

/-- The interrupt that nothing masks. -/
def nmi (cpu : Cpu) : Access (Nat × Cpu) := do
  let cpu ← cpu.interruptTo nmiVector
  return (interruptCycles, cpu)

/-- The interrupt that the status can mask. -/
def irq (cpu : Cpu) : Access (Nat × Cpu) := do
  if cpu.registers.p.irqDisable then
    return (interruptCycles, cpu)
  else
    let cpu ← cpu.interruptTo irqVector
    return (interruptCycles, cpu)

end Cpu
end Console7800
