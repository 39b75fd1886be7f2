import Console7800.Console
import Console7800.Cpu.Gauges

/-!
# What the console shows

Parts are reached behind `cpu.`, `riot.` and `memory.`; the rest has paths of its own, some of which
show something only while a cartridge or an expansion module is there.
-/

namespace Console7800.Console

variable {μ σ : Type}

/-- The paths of the console's own values. -/
def ownGauges : List (String × (Console μ σ → Option Reading)) := [
  ("frame", fun console => some (.counter console.frames)),
  ("scheduler.cycles", fun console => some (.number console.board.scheduler.cycles)),
  ("scheduler.scanline",
    fun console => some (.word (UInt16.ofNat console.board.scheduler.scanline))),
  ("scheduler.frame", fun console => some (.word (UInt16.ofNat console.board.scheduler.frame))),
  ("scheduler.wsync", fun console => some (.flag console.board.scheduler.timing.waitSync)),
  ("scheduler.cycle_stealing",
    fun console => some (.flag console.board.scheduler.timing.cycleStealing)),
  ("cartridge.type", fun console => console.cartridge?.map (.text ·.mapper.name)),
  ("cartridge.bank", fun console => console.cartridge?.map (.byte ·.bank)),
  ("cartridge.digest", fun console => console.cartridge?.map (.text ·.digest)),
  ("high_score.mounted", fun console => some (.flag console.highScoreMounted)),
  ("xm.xctrl", fun console => console.board.bus.xm.map (.byte ·.control)),
  ("xm.bank", fun console => console.board.bus.xm.map fun xm => .byte (UInt8.ofNat xm.bank))]

/-- The forms of the paths that are shown. -/
def paths : List String :=
  ["cpu.<reg>", "riot.<reg>", "memory.<address>"] ++
    (ownGauges : List (String × (Console Unit Unit → Option Reading))).map (·.1)

/-- What follows a path's first part, if that is `part`. -/
def behind? (part path : String) : Option String :=
  if part.toList.isPrefixOf path.toList then some (String.ofList (path.toList.drop part.length))
  else none

def read? (console : Console μ σ) (path : String) : Option Reading :=
  match behind? "cpu." path, behind? "riot." path, behind? "memory." path with
  | some rest, _, _ => Cpu.gauges.read? console.board.cpu rest
  | none, some rest, _ => Riot.gauges.read? console.board.bus.riot rest
  | none, none, some rest =>
    (parseAddress? rest).map fun address => .byte (console.board.bus.peek address)
  | none, none, none => (ownGauges.lookup path).bind (· console)

end Console7800.Console
