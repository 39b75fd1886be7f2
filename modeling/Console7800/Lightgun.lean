import Console7800.Double
import Console7800.Memory
import Console7800.Region

/-!
# Light gun

A sensor that sees the beam when it passes the point the gun is aimed at. The point is a scanline
and a number of quarter-cycles on it.
-/

namespace Console7800

/-- Quarter-cycles to a scanline. -/
def lineCycles : Nat := 454

structure Lightgun where
  line : Int := 0
  cycle : Double := ⟨0⟩
  deriving Repr, DecidableEq, Inhabited

namespace Lightgun

/-- Quarter-cycles before the first visible pixel. -/
def blankCycles : Float := 136

/-- From there to the left edge of the picture. -/
def pictureIndent : Float := 52

/-- The width of the picture. -/
def pictureCycles : Float := 318

/-- The height of the picture. -/
def pictureLines : Float := 240

/-- Lines below the first for which the sensor goes on seeing the beam. -/
def sensorLines : Int := 3

/-- Aim at a point of the picture, each coordinate from 0 to 1. -/
def aim (x y : Double) (region : Region) : Lightgun :=
  let first := region.visibleArea.top - region.displayArea.top + 1
  let line := y.toFloat * pictureLines + Float.ofNat first + Float.ofInt region.lightgunOffset
  let cycle := x.map fun x => blankCycles + pictureIndent + x * pictureCycles
  if Float.ofNat lineCycles < cycle.toFloat then
    { line := line.toInt32.toInt + 1, cycle := cycle.map (· - Float.ofNat lineCycles) }
  else { line := line.toInt32.toInt, cycle }

/-- The beam is in front of the sensor. -/
def sees (gun : Lightgun) (line cycles : Nat) : Bool :=
  gun.line ≤ line && line ≤ gun.line + sensorLines && gun.cycle.toFloat.toInt64.toInt - 1 ≤ cycles

/-- The latch whose bit 7 is low while the sensor sees the beam. -/
def latch : UInt16 := 0x000C

/-- Show in the latch what the sensor sees. -/
def strobe (gun : Lightgun) (line cycles : Nat) (memory : Memory) : Memory :=
  let value := memory.read latch
  memory.poke latch (if gun.sees line cycles then value &&& 0x7F else value ||| 0x80)

end Lightgun
end Console7800
