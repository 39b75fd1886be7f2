import Console7800.Cpu.Status

/-!
# Processor registers

The stack lives in page one and its pointer wraps silently.
-/

namespace Console7800

/-- The general registers, those that loads and stores name. -/
inductive Register where
  | a | x | y
  deriving Repr, DecidableEq

structure Registers where
  a : UInt8 := 0
  x : UInt8 := 0
  y : UInt8 := 0
  s : UInt8 := 0
  pc : UInt16 := 0
  p : Status := { reserved := true }
  deriving Repr, DecidableEq, Inhabited

namespace Registers

def get (r : Registers) : Register → UInt8
  | .a => r.a
  | .x => r.x
  | .y => r.y

def set (r : Registers) (register : Register) (value : UInt8) : Registers :=
  match register with
  | .a => { r with a := value }
  | .x => { r with x := value }
  | .y => { r with y := value }

/-- Set a register, and the flags that describe it. -/
def assign (r : Registers) (register : Register) (value : UInt8) : Registers :=
  { r.set register value with p := r.p.describe value }

/-- Where the stack pointer points. -/
def stackTop (r : Registers) : UInt16 := 0x0100 + r.s.toUInt16

/-- The address a push writes, and the registers after it. -/
def push (r : Registers) : UInt16 × Registers := (r.stackTop, { r with s := r.s - 1 })

/-- The address a pull reads, and the registers after it. -/
def pull (r : Registers) : UInt16 × Registers :=
  let r := { r with s := r.s + 1 }
  (r.stackTop, r)

theorem push_pull (r : Registers) : r.push.2.pull = (r.stackTop, r) := by
  simp [push, pull, stackTop]

end Registers
end Console7800
