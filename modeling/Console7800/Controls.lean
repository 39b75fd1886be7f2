import Console7800.Memory
import Console7800.Riot

/-!
# Controls

The joysticks and console switches, and how they drive the pins and the button latches. A player
has two separate buttons once the program has pulled the player's select line low as an output, and
one button otherwise.
-/

namespace Console7800

/-- A control that can be pressed. Players are numbered; every number but an odd one means the
first. -/
inductive Button where
  | up (player : Nat) | down (player : Nat) | left (player : Nat) | right (player : Nat)
  | leftFire (player : Nat) | rightFire (player : Nat)
  | reset | select | pause
  | leftDifficulty | rightDifficulty
  | lightgunTrigger
  deriving Repr, DecidableEq

structure Joystick where
  up : Bool := false
  down : Bool := false
  left : Bool := false
  right : Bool := false
  leftFire : Bool := false
  rightFire : Bool := false
  deriving Repr, DecidableEq, Inhabited

/-- The four directions, low while pushed. -/
def Joystick.nibble (stick : Joystick) : UInt8 :=
  (!stick.right).toUInt8 * 8 + (!stick.left).toUInt8 * 4 + (!stick.down).toUInt8 * 2 +
    (!stick.up).toUInt8

structure Controls where
  first : Joystick := {}
  second : Joystick := {}
  reset : Bool := false
  select : Bool := false
  pause : Bool := false
  leftDifficultyA : Bool := false
  rightDifficultyA : Bool := false
  lightgunTrigger : Bool := false
  /-- The first player has a light gun in place of a joystick. -/
  lightgun : Bool := false
  /-- The two buttons of each joystick are swapped. -/
  swapButtons : Bool := false
  deriving Repr, DecidableEq, Inhabited

namespace Controls

def mapStick (controls : Controls) (player : Nat) (f : Joystick → Joystick) : Controls :=
  if player % 2 = 0 then { controls with first := f controls.first }
  else { controls with second := f controls.second }

/-- Press or release a control. -/
def set (controls : Controls) (button : Button) (pressed : Bool) : Controls :=
  match button with
  | .up player => controls.mapStick player ({ · with up := pressed })
  | .down player => controls.mapStick player ({ · with down := pressed })
  | .left player => controls.mapStick player ({ · with left := pressed })
  | .right player => controls.mapStick player ({ · with right := pressed })
  | .leftFire player => controls.mapStick player ({ · with leftFire := pressed })
  | .rightFire player => controls.mapStick player ({ · with rightFire := pressed })
  | .reset => { controls with reset := pressed }
  | .select => { controls with select := pressed }
  | .pause => { controls with pause := pressed }
  | .leftDifficulty => { controls with leftDifficultyA := pressed }
  | .rightDifficulty => { controls with rightDifficultyA := pressed }
  | .lightgunTrigger => { controls with lightgunTrigger := pressed }

/-- The levels of the joystick pins, the first player in the high half. Of a light gun only the
trigger is wired, and it is high while pulled. -/
def stickLevels (controls : Controls) : UInt8 :=
  let first :=
    if controls.lightgun then if controls.lightgunTrigger then 0x0F else 0x0E
    else controls.first.nibble
  first * 16 + controls.second.nibble

/-- The levels of the switch pins. -/
def switchLevels (controls : Controls) : UInt8 :=
  0x34 + (!controls.reset).toUInt8 + (!controls.select).toUInt8 * 0x02 +
    (!controls.pause).toUInt8 * 0x08 + controls.leftDifficultyA.toUInt8 * 0x40 +
    controls.rightDifficultyA.toUInt8 * 0x80

/-- Where a player's buttons are seen, and the select line that separates them. -/
structure ButtonLatches where
  left : UInt16
  right : UInt16
  single : UInt16
  selectLine : UInt8

def firstLatches : ButtonLatches := ⟨0x0009, 0x0008, 0x000C, 0x04⟩

def secondLatches : ButtonLatches := ⟨0x000B, 0x000A, 0x000D, 0x10⟩

/-- The program has pulled the select line low as an output. -/
def ButtonLatches.separated (latches : ButtonLatches) (pins : Pins) : Bool :=
  pins.direction &&& latches.selectLine != 0 && pins.latch &&& latches.selectLine == 0

/-- Show a player's two buttons. Where the single latch belongs to a light gun it is left alone in
one-button mode. -/
def applyButtons (controls : Controls) (stick : Joystick) (latches : ButtonLatches)
    (gunLatch : Bool) (pins : Pins) (memory : Memory) : Memory :=
  let (left, right) :=
    if controls.swapButtons then (stick.rightFire, stick.leftFire)
    else (stick.leftFire, stick.rightFire)
  let level (pressed : Bool) : UInt8 := if pressed then 0x80 else 0
  if latches.separated pins then
    let memory := memory.poke latches.left (level left)
    let memory := memory.poke latches.right (level right)
    memory.poke latches.single 0x80
  else
    let memory := memory.poke latches.left 0
    let memory := memory.poke latches.right 0
    if gunLatch then memory else memory.poke latches.single (level (!(left || right)))

/-- Drive the pins and show the buttons. -/
def apply (controls : Controls) (riot : Riot) (memory : Memory) : Riot × Memory :=
  let memory :=
    controls.applyButtons controls.first firstLatches controls.lightgun riot.pinsB memory
  let memory := controls.applyButtons controls.second secondLatches false riot.pinsB memory
  ({ riot with
    pinsA := { riot.pinsA with external := controls.stickLevels }
    pinsB := { riot.pinsB with external := controls.switchLevels } }, memory)

end Controls
end Console7800
