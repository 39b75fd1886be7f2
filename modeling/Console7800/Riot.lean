import Console7800.Cells
import Console7800.Inspection

/-!
# Pins and timer

Two groups of eight pins, for the joysticks and the console switches, and an interval timer. The
timer is driven in batches of processor cycles. It counts down to zero, raises its flag, then counts
single cycles down from 255 and stops.
-/

namespace Console7800

/-- Eight pins: those whose direction bit is set show the latch, the others the level driven onto
them. -/
structure Pins where
  latch : UInt8 := 0
  direction : UInt8 := 0
  external : UInt8 := 0xFF
  deriving Repr, DecidableEq, Inhabited

def Pins.level (pins : Pins) : UInt8 :=
  pins.latch &&& pins.direction ||| pins.external &&& ~~~pins.direction

structure Timer where
  /-- The register that started the countdown. -/
  register : UInt16 := 0x0297
  intervals : UInt8 := 0
  /-- Cycles per interval. -/
  prescaler : UInt16 := 1024
  counting : Bool := false
  /-- Cycles left until zero, negative after it. -/
  remaining : Int := 0
  expired : Bool := false
  /-- The visible count. -/
  count : UInt8 := 0
  /-- Zero was reached and no read has acknowledged it. -/
  raised : Bool := false
  deriving Repr, DecidableEq, Inhabited

namespace Timer

/-- The most cycles that one batch can hold. -/
def batchLimit : Nat := 2147483647

/-- The prescaler that each of the four starting registers selects. -/
def prescalerOf (register : UInt16) : UInt16 :=
  if register = 0x0294 then 1
  else if register = 0x0295 then 8
  else if register = 0x0296 then 64
  else 1024

/-- Start a countdown of `intervals` intervals. -/
def start (register : UInt16) (intervals : UInt8) : Timer where
  register := register
  intervals := intervals
  prescaler := prescalerOf register
  counting := true
  remaining := (prescalerOf register).toNat * intervals.toNat
  count := intervals

/-- Let `cycles` processor cycles pass. -/
def advance (timer : Timer) (cycles : Nat) : Timer :=
  if timer.counting then
    let remaining := timer.remaining - (min cycles batchLimit : Nat)
    if timer.expired then
      if -255 ≤ remaining then { timer with remaining, count := UInt8.ofInt remaining }
      else { timer with remaining, count := 0, counting := false }
    else if 0 < remaining then
      { timer with remaining, count := UInt8.ofInt (remaining / timer.prescaler.toNat) }
    else { timer with remaining, count := 0, raised := true, expired := true }
  else timer

/-- The byte in which bit 7 shows the raised flag. -/
def flagByte (timer : Timer) : UInt8 := if timer.raised then 0x80 else 0

end Timer

structure Riot where
  pinsA : Pins := {}
  pinsB : Pins := {}
  timer : Timer := {}
  deriving Repr, DecidableEq, Inhabited

namespace Riot

/-- Power-on, with the levels driven onto the pins kept. -/
def reset (riot : Riot) : Riot where
  pinsA := { external := riot.pinsA.external }
  pinsB := { external := riot.pinsB.external }

/-- The value of a register. Only the low five bits of the address count, and of those with bit 2
set only bit 0. -/
def peek (riot : Riot) (address : UInt16) : UInt8 :=
  let register := address &&& 0x1F
  if register = 0 then riot.pinsA.level
  else if register = 1 then riot.pinsA.direction
  else if register = 2 then riot.pinsB.level
  else if register = 3 then riot.pinsB.direction
  else if register &&& 0x05 = 0x04 then riot.timer.count
  else if register &&& 0x05 = 0x05 then riot.timer.flagByte
  else 0

/-- Read a register; a read with address bit 2 set acknowledges the timer. -/
def read (riot : Riot) (address : UInt16) : UInt8 × Riot :=
  let value := riot.peek address
  if address &&& 0x04 = 0 then (value, riot)
  else (value, { riot with timer := { riot.timer with raised := false } })

def write (riot : Riot) (address : UInt16) (value : UInt8) : Riot :=
  let register := address &&& 0x1F
  if register = 0 then { riot with pinsA := { riot.pinsA with latch := value } }
  else if register = 1 then { riot with pinsA := { riot.pinsA with direction := value } }
  else if register = 2 then { riot with pinsB := { riot.pinsB with latch := value } }
  else if register = 3 then { riot with pinsB := { riot.pinsB with direction := value } }
  else if 0x14 ≤ register ∧ register ≤ 0x17 then
    { riot with timer := .start (0x0280 + register) value }
  else riot

def advance (riot : Riot) (cycles : Nat) : Riot :=
  { riot with timer := riot.timer.advance cycles }

/-! ## Snapshots -/

/-- The number of bytes in a snapshot. -/
def snapshotSize : Nat := 8

/-- The direction registers and how the timer was started. -/
def snapshot (riot : Riot) : Bytes :=
  let timer := riot.timer
  #[riot.pinsA.direction, riot.pinsB.direction, timer.counting.toUInt8,
    (timer.register / 256).toUInt8, timer.register.toUInt8, timer.intervals,
    (timer.prescaler / 256).toUInt8, timer.prescaler.toUInt8]

theorem size_snapshot (riot : Riot) : riot.snapshot.size = snapshotSize := rfl

/-- A word stored high byte first. -/
def wordAt (data : Bytes) (i : Nat) : UInt16 :=
  (data.getD i 0).toUInt16 * 256 + (data.getD (i + 1) 0).toUInt16

/-- Take the direction registers from a snapshot and start its countdown afresh. A prescaler of zero
counts as one. -/
def restore (riot : Riot) (data : Bytes) : Riot :=
  let intervals := data.getD 5 0
  let stored := wordAt data 6
  let prescaler := if stored = 0 then 1 else stored
  { pinsA := { riot.pinsA with direction := data.getD 0 0 }
    pinsB := { riot.pinsB with direction := data.getD 1 0 }
    timer := {
      register := wordAt data 3
      intervals, prescaler
      counting := data.getD 2 0 != 0
      remaining := prescaler.toNat * intervals.toNat
      count := intervals } }

def gauges : Gauges Riot := [
  ("swcha", fun riot => .byte riot.pinsA.level),
  ("swchb", fun riot => .byte riot.pinsB.level),
  ("ctlswa", fun riot => .byte riot.pinsA.direction),
  ("ctlswb", fun riot => .byte riot.pinsB.direction),
  ("intim", fun riot => .byte riot.timer.count),
  ("intflg", fun riot => .byte riot.timer.flagByte),
  ("timer.running", fun riot => .flag riot.timer.counting),
  ("timer.register", fun riot => .word riot.timer.register),
  ("timer.clocks", fun riot => .number riot.timer.prescaler.toNat),
  ("timer.elapsed", fun riot => .flag riot.timer.expired)]

end Riot
end Console7800
