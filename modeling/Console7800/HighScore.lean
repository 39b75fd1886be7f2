import Console7800.Bus
import Console7800.ImageError
import Console7800.Md5
import Console7800.Memory

/-!
# High-score cartridge

A ROM of 4 KB at $3000 with 2 KB of battery RAM at $1000, both put into memory by ordinary writes.
Programs that use it jump to one of its entry points, and only then is the battery RAM worth
keeping.
-/

namespace Console7800

structure HighScoreCart where
  rom : Bytes
  sram : Option Bytes

namespace HighScoreCart

/-- The digest of the one ROM that is accepted. -/
def acceptedDigest : String := "c8a73288ab97226c52602204ab894286"

def romStart : UInt16 := 0x3000

def sramStart : UInt16 := 0x1000

def sramSize : Nat := 2048

def load (rom : Bytes) (sram : Option Bytes) : Except ImageError HighScoreCart :=
  let digest := Md5.hexDigest rom
  if digest ≠ acceptedDigest then .error (.highScoreDigest digest)
  else match sram with
    | some data =>
      if data.size ≠ sramSize then .error (.highScoreSram sramSize data.size)
      else .ok { rom, sram }
    | none => .ok { rom, sram }

/-- Write bytes one after the other. -/
def writeAll (address : UInt16) : List UInt8 → Access Unit
  | [] => .done ()
  | byte :: rest => .write address byte (writeAll (address + 1) rest)

/-- Write the battery RAM, then the ROM. -/
def mount (cart : HighScoreCart) : Access Unit := do
  if let some sram := cart.sram then
    writeAll sramStart sram.toList
  writeAll romStart cart.rom.toList

/-- What to keep of the battery RAM, if the cartridge was entered. -/
def keptSram? (memory : Memory) (entered : Bool) : Option Bytes :=
  if entered then some (memory.slice sramStart sramSize) else none

end HighScoreCart
end Console7800
