/-!
# Configuration

How a console is set up, apart from the cartridge.
-/

namespace Console7800

/-- A feature that follows what the cartridge needs, or is forced. -/
inductive FeatureMode where
  | auto | enabled | disabled
  deriving Repr, DecidableEq, Inhabited

namespace FeatureMode

/-- The feature is on, for a cartridge that may need it off. -/
def resolve (mode : FeatureMode) (neededOff : Bool) : Bool :=
  match mode with
  | .auto => !neededOff
  | .enabled => true
  | .disabled => false

def name : FeatureMode → String
  | .auto => "auto"
  | .enabled => "enabled"
  | .disabled => "disabled"

end FeatureMode

inductive HighScoreMode where
  | disabled
  /-- Mounted at power-on, but not for a saved state. -/
  | enabled
  /-- Mounted for saved states too. -/
  | enabledSnapshots
  deriving Repr, DecidableEq, Inhabited

namespace HighScoreMode

/-- A reset mounts the high-score cartridge. -/
def mounts (mode : HighScoreMode) (loadingState : Bool) : Bool :=
  match mode with
  | .disabled => false
  | .enabled => !loadingState
  | .enabledSnapshots => true

def name : HighScoreMode → String
  | .disabled => "disabled"
  | .enabled => "enabled"
  | .enabledSnapshots => "enabled-snapshots"

end HighScoreMode

structure Config where
  waitSync : FeatureMode := .auto
  cycleStealing : FeatureMode := .auto
  /-- A cartridge may have a light gun. -/
  lightgun : Bool := false
  highScore : HighScoreMode := .disabled
  highScoreRom : Option String := none
  highScoreSram : Option String := none
  bios : Option String := none
  database : Option String := none
  /-- Frames per second to report in place of the region's. -/
  frameRate : Option Nat := none
  /-- What the stand-in display chip charges for a line. -/
  dmaCost : Option Nat := none
  deriving Repr, DecidableEq, Inhabited

end Console7800
