/-!
# Sound chips

What the bus and the scanline loop ask of a chip that makes sound, and a stand-in that keeps its
registers and counts the clocks it gets.
-/

namespace Console7800

class SoundChip (σ : Type) where
  reset : σ → σ
  read : σ → UInt8 → UInt8 × σ
  write : σ → UInt8 → UInt8 → σ
  /-- A frame starts. -/
  frame : σ → σ
  /-- A line has ended. -/
  scanline : σ → σ
  /-- Sample clocks pass. -/
  process : σ → Nat → σ

/-- A sound chip that makes no sound. -/
structure SilentSound where
  registers : Vector UInt8 16 := .replicate 16 0
  cycles : Nat := 0
  frames : Nat := 0
  scanlines : Nat := 0
  deriving Repr, DecidableEq

namespace SilentSound

/-- Only the low four bits of a register number count. -/
def index (register : UInt8) : Fin 16 := ⟨register.toNat % 16, Nat.mod_lt _ (by decide)⟩

def read (chip : SilentSound) (register : UInt8) : UInt8 := chip.registers[index register]

def write (chip : SilentSound) (register value : UInt8) : SilentSound :=
  { chip with registers := chip.registers.set (index register) value }

end SilentSound

instance : SoundChip SilentSound where
  reset _ := {}
  read chip register := (chip.read register, chip)
  write := SilentSound.write
  frame chip := { chip with frames := chip.frames + 1 }
  scanline chip := { chip with scanlines := chip.scanlines + 1 }
  process chip clocks := { chip with cycles := chip.cycles + clocks }

end Console7800
