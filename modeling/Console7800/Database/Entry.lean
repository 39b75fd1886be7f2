import Console7800.Cartridge

/-!
# Database entries

The settings that a database holds for one cartridge. Those that an entry leaves open stay as the
cartridge's header has them.
-/

namespace Console7800.Database

structure Entry where
  title : String
  mapper : Mapper
  pokey : Bool
  controllers : UInt8 × UInt8
  region : Region
  flags : UInt32
  crosshairX? : Option Int := none
  crosshairY? : Option Int := none
  hblank? : Option Nat := none
  dualAnalog? : Option Bool := none
  pokey450? : Option Bool := none
  expansion? : Option Bool := none
  disableBios? : Option Bool := none
  leftSwitch? : Option UInt8 := none
  rightSwitch? : Option UInt8 := none
  swapButtons? : Option Bool := none
  deriving Repr, DecidableEq

/-- Put the entry's settings in place of the cartridge's. A sound chip said to answer at $0450 is
there, whatever else the entry says of it. -/
def Entry.apply (entry : Entry) (cartridge : Cartridge) : Cartridge :=
  { cartridge with
    title := entry.title
    mapper := entry.mapper
    pokey := entry.pokey || entry.pokey450?.getD false
    pokey450 := entry.pokey450?.getD cartridge.pokey450
    controllers := entry.controllers
    region := entry.region
    flags := entry.flags
    expansion := entry.expansion?.getD cartridge.expansion
    hblank := entry.hblank?.getD cartridge.hblank
    crosshair :=
      (entry.crosshairX?.getD cartridge.crosshair.1, entry.crosshairY?.getD cartridge.crosshair.2)
    dualAnalog := entry.dualAnalog?.getD cartridge.dualAnalog
    disableBios := entry.disableBios?.getD cartridge.disableBios
    switches :=
      (entry.leftSwitch?.getD cartridge.switches.1, entry.rightSwitch?.getD cartridge.switches.2)
    swapButtons := entry.swapButtons?.getD cartridge.swapButtons }

end Console7800.Database
