/-!
# Mappers

The ways in which a cartridge image is laid out in the address space, with their database codes and
names. Every mapper but the first has one window through which banks of 16 KB are seen in turn.
-/

namespace Console7800

inductive Mapper where
  /-- Up to 64 KB, flat at the top. -/
  | normal
  /-- Banks at $8000, the last bank at $C000. -/
  | supercart
  /-- The same, and the first bank at $4000. -/
  | supercartLarge
  /-- The same as `supercart`, and 16 KB of RAM at $4000. -/
  | supercartRam
  /-- The same as `supercart`, and the bank before the last at $4000. -/
  | supercartRom
  /-- Two banks that share $4000, the next two at $8000. -/
  | absolute
  /-- Banks at $A000, selected by writes from $FF80 up, among four windows of 8 KB. -/
  | activision
  deriving Repr, DecidableEq, Inhabited

namespace Mapper

def ofCode? : Nat → Option Mapper
  | 0 => some .normal
  | 1 => some .supercart
  | 2 => some .supercartLarge
  | 3 => some .supercartRam
  | 4 => some .supercartRom
  | 5 => some .absolute
  | 6 => some .activision
  | _ => none

def code : Mapper → Nat
  | .normal => 0
  | .supercart => 1
  | .supercartLarge => 2
  | .supercartRam => 3
  | .supercartRom => 4
  | .absolute => 5
  | .activision => 6

theorem ofCode?_code (mapper : Mapper) : ofCode? mapper.code = some mapper := by
  cases mapper <;> rfl

def name : Mapper → String
  | .normal => "normal"
  | .supercart => "supercart"
  | .supercartLarge => "supercart-large"
  | .supercartRam => "supercart-ram"
  | .supercartRom => "supercart-rom"
  | .absolute => "absolute"
  | .activision => "activision"

/-- Where the window is. -/
def window? : Mapper → Option UInt16
  | .normal => none
  | .supercart | .supercartLarge | .supercartRam | .supercartRom => some 0x8000
  | .absolute => some 0x4000
  | .activision => some 0xA000

/-- The mapper of an image that nothing but its size describes. -/
def ofSize (size : Nat) : Mapper :=
  if size ≤ 0x10000 then .normal
  else if size = 0x24000 then .supercartLarge
  else if size = 0x20000 then .supercartRom
  else .supercart

end Mapper
end Console7800
