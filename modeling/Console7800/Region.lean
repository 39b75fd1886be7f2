/-!
# Video regions

Frame rates and the layout of a frame in scanlines, which count from 1.
-/

namespace Console7800

/-- A stretch of scanlines, both ends included. -/
structure Area where
  top : Nat
  bottom : Nat
  deriving Repr, DecidableEq

namespace Area

def height (area : Area) : Nat := area.bottom - area.top + 1

def contains (area : Area) (line : Nat) : Bool := area.top ≤ line && line ≤ area.bottom

end Area

inductive Region where
  | ntsc | pal
  deriving Repr, DecidableEq, Inhabited

namespace Region

/-- One is PAL and every other byte NTSC. -/
def ofByte (byte : UInt8) : Region := if byte = 1 then .pal else .ntsc

def toByte : Region → UInt8
  | .ntsc => 0
  | .pal => 1

theorem ofByte_toByte (region : Region) : ofByte region.toByte = region := by
  cases region <;> rfl

/-- Frames per second. -/
def frequency : Region → Nat
  | .ntsc => 60
  | .pal => 50

/-- Lines per frame. -/
def scanlines : Region → Nat
  | .ntsc => 262
  | .pal => 312

/-- The lines the display chip works on: it leaves blanking at the top and enters it at the
bottom. -/
def displayArea : Region → Area
  | .ntsc => ⟨16, 258⟩
  | .pal => ⟨16, 308⟩

/-- The lines a television shows. -/
def visibleArea : Region → Area
  | .ntsc => ⟨26, 248⟩
  | .pal => ⟨26, 298⟩

/-- Lines by which an aimed light gun is moved. -/
def lightgunOffset : Region → Int
  | .ntsc => 2
  | .pal => -2

end Region
end Console7800
