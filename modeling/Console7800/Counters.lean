import Console7800.SaveState

/-!
# Counters that can overflow

Quarter-cycles are counted in 32 bits, in the scheduler's counter and in the sum of what the display
chip charged in the frame. A run in which an addition to one of them goes over has no result. Within
a line both only grow, so it is enough to look at them where the line ends. The countdown of the
timer has 32 bits too, one of them for the sign. Frames have 64, and the frame of a release is a sum
of two numbers.
-/

namespace Console7800

/-- The counters stay below this. -/
def counterLimit : Nat := 0x100000000

/-- The countdown of the timer does not go below this. -/
def Timer.lowestCountdown : Int := -0x80000000

/-- `advance`, unless the countdown goes below its range. -/
def Timer.advance? (timer : Timer) (cycles : Nat) : Option Timer :=
  if timer.counting ∧ timer.remaining - (min cycles batchLimit : Nat) < lowestCountdown then none
  else some (timer.advance cycles)

/-- `advance`, unless the countdown of the timer goes below its range. -/
def Riot.advance? (riot : Riot) (cycles : Nat) : Option Riot :=
  (riot.timer.advance? cycles).map fun timer => { riot with timer }

/-- Frames are numbered below this. -/
def frameLimit : Nat := 0x10000000000000000

/-- `enqueueButton`, unless the frame of the release goes over. -/
def InputQueue.enqueueButton? (queue : InputQueue) (button : Button) (atFrame hold : Nat) :
    Option InputQueue :=
  if atFrame + hold < frameLimit then some (queue.enqueueButton button atFrame hold) else none

/-- Both counters of quarter-cycles are in their range. -/
def Scheduler.inRange (scheduler : Scheduler) : Bool :=
  scheduler.cycles < counterLimit && scheduler.stats.dmaCycles < counterLimit

namespace Board

variable {μ σ : Type} [SoundChip σ] [DisplayChip μ]

/-- `runLines`, unless a counter goes over. -/
def runLines? (gun : Option Lightgun) (pokey : Bool) : Nat → Nat → Board μ σ → Option (Board μ σ)
  | 0, _, board => some board
  | count + 1, line, board =>
    let board := board.runLine line gun pokey
    if board.scheduler.inRange then runLines? gun pokey count (line + 1) board else none

/-- `runFrame`, unless a counter goes over. -/
def runFrame? (board : Board μ σ) (gun : Lightgun) : Option (Board μ σ) :=
  let pokey := board.bus.pokeyActive
  let gun? := board.activeGun? gun
  let lines := board.scheduler.timing.region.scanlines
  (runLines? gun? pokey lines 1 (board.beginFrame pokey)).map endFrame

end Board

namespace Console

variable {μ σ : Type} [SoundChip σ] [DisplayChip μ]

/-- `runFrameWith`, unless a counter goes over. -/
def runFrameWith? (console : Console μ σ) (controls : Controls) : Option (Console μ σ) :=
  ((sample controls console.board).runFrame? console.lightgun).map fun board =>
    { console with board, frames := console.frames + 1 }

/-- `runFrame`, unless a counter goes over. -/
def runFrame? (console : Console μ σ) : Option (Console μ σ) :=
  let (queue, controls) := console.queue.process console.frames console.controls
  runFrameWith? { console with queue, controls } controls

def runFrames? : Nat → Console μ σ → Option (Console μ σ)
  | 0, console => some console
  | n + 1, console => console.runFrame?.bind (runFrames? n)

def runFramesWith? (controls : Controls) : Nat → Console μ σ → Option (Console μ σ)
  | 0, console => some console
  | n + 1, console => (console.runFrameWith? controls).bind (runFramesWith? controls n)

/-- `runTestFrames`, unless a counter goes over. -/
def runTestFrames? (console : Console μ σ) : Option (Console μ σ) :=
  runFramesWith? console.testControls console.region.frequency console

/-- `loadStateWarm`, unless a counter goes over. -/
def loadStateWarm? (console : Console μ σ) (data : Bytes) :
    Option (Except StateError Unit × Console μ σ) :=
  match SaveState.parse data console.cartridge? with
  | .error error => some (.error error, console)
  | .ok _ => console.runTestFrames?.map (·.loadState data)

end Console
end Console7800
