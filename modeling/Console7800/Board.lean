import Console7800.Cpu
import Console7800.DisplayChip
import Console7800.Lightgun
import Console7800.SystemBus

/-!
# The board and its scanlines

The processor, the bus and the display chip take turns, one scanline at a time. Time is counted in
quarters of a processor cycle, 454 to a line. On each line the processor runs up to the horizontal
blank, the display chip draws and may hold the bus, and the processor runs on to the end of the
line. A program that waits for the end of the line is halted until then; the timer is told of the
time it did not see.
-/

namespace Console7800

/-- What a frame depends on besides its state, fixed at reset. -/
structure Timing where
  region : Region := .ntsc
  /-- Quarter-cycles of a line that pass before the display chip takes the bus. -/
  hblank : Nat := Cartridge.defaultHblank
  /-- Programs can wait for the end of the line. -/
  waitSync : Bool := true
  /-- The display chip's time on the bus is the processor's loss. -/
  cycleStealing : Bool := true
  /-- The first player has a light gun. -/
  lightgun : Bool := false
  deriving Repr, DecidableEq, Inhabited

/-- What happened in the last frame. -/
structure FrameStats where
  instructions : Nat := 0
  waitHalts : Nat := 0
  /-- Quarter-cycles that the display chip held the bus. -/
  dmaCycles : Nat := 0
  displayInterrupts : Nat := 0
  deriving Repr, DecidableEq, Inhabited

structure Scheduler where
  timing : Timing := {}
  /-- Quarter-cycles into the current line. -/
  cycles : Nat := 0
  /-- What the counter held past the last line when it was set to zero. -/
  extraCycles : Nat := 0
  /-- The last line run, counted from 1. -/
  scanline : Nat := 0
  /-- Frames, counted around within a second. -/
  frame : Nat := 0
  stats : FrameStats := {}
  deriving Repr, DecidableEq, Inhabited

structure Board (μ σ : Type) where
  cpu : Cpu := {}
  bus : SystemBus σ
  display : μ
  scheduler : Scheduler := {}

namespace Board

variable {μ σ : Type}

/-- What the display status shows outside the display. -/
def blankStatus : UInt8 := 0x80

/-- Sample clocks that each sound chip gets for a line. -/
def soundClocks : Nat := 2

def mapBus (board : Board μ σ) (f : SystemBus σ → SystemBus σ) : Board μ σ :=
  match board with
  | ⟨cpu, bus, display, scheduler⟩ => ⟨cpu, f bus, display, scheduler⟩

def mapScheduler (board : Board μ σ) (f : Scheduler → Scheduler) : Board μ σ :=
  match board with
  | ⟨cpu, bus, display, scheduler⟩ => ⟨cpu, bus, display, f scheduler⟩

def mapMemory (board : Board μ σ) (f : Memory → Memory) : Board μ σ :=
  board.mapBus (·.mapMemory f)

/-- Let processor cycles pass for the timer. -/
def advanceTimer (board : Board μ σ) (cycles : Nat) : Board μ σ :=
  board.mapBus (·.mapRiot (·.advance cycles))

/-- Show what the light gun sees, if one is looked at. -/
def strobe (board : Board μ σ) (gun : Option Lightgun) : Board μ σ :=
  match gun with
  | none => board
  | some gun => board.mapMemory (gun.strobe board.scheduler.scanline board.scheduler.cycles)

/-- Take the program's request to wait, if waiting is on. -/
def takeWait (board : Board μ σ) : Bool × Board μ σ :=
  match board with
  | ⟨cpu, bus, display, scheduler⟩ =>
    if scheduler.timing.waitSync then
      match bus.takeWait with
      | (false, bus) => (false, ⟨cpu, bus, display, scheduler⟩)
      | (true, bus) =>
        let stats := { scheduler.stats with waitHalts := scheduler.stats.waitHalts + 1 }
        (true, ⟨cpu, bus, display, { scheduler with stats }⟩)
    else (false, ⟨cpu, bus, display, scheduler⟩)

/-- Where a line starts: the status of the display at its first and last line, and the counter
brought back. A line on which the display chip steals cycles starts at zero. -/
def beginLine (board : Board μ σ) (line : Nat) : Board μ σ :=
  let area := board.scheduler.timing.region.displayArea
  let board :=
    if line = area.top then board.mapMemory (·.poke displayStatus 0)
    else if line = area.bottom then board.mapMemory (·.poke displayStatus blankStatus)
    else board
  let stolen := board.scheduler.timing.cycleStealing && board.bus.memory.dmaEnabled
  board.mapScheduler fun scheduler =>
    let carry := scheduler.cycles % lineCycles
    if stolen then { scheduler with scanline := line, cycles := 0, extraCycles := carry }
    else { scheduler with scanline := line, cycles := carry, extraCycles := 0 }

section

variable [SoundChip σ]

/-- Run one instruction and count what it took. -/
def step (board : Board μ σ) : Nat × Board μ σ :=
  match board with
  | ⟨cpu, bus, display, scheduler⟩ =>
    match cpu.step.run bus with
    | ((cycles, cpu), bus) =>
      let counted := scheduler.cycles + 4 * cycles + (if cpu.halfCycle then 2 else 0)
      let stats := { scheduler.stats with instructions := scheduler.stats.instructions + 1 }
      (cycles, ⟨cpu, bus, display, { scheduler with cycles := counted, stats }⟩)

/-- Run one instruction and everything that watches it. The result says whether the program waits
for the end of the line. -/
def stepWatched (board : Board μ σ) (gun : Option Lightgun) : Bool × Board μ σ :=
  match board.step with
  | (cycles, board) => ((board.advanceTimer cycles).strobe gun).takeWait

/-- Run instructions until the counter reaches `limit` or the program waits, `fuel` of them at
most. -/
def runFor (gun : Option Lightgun) (limit : Nat) : Nat → Board μ σ → Bool × Board μ σ
  | 0, board => (false, board)
  | fuel + 1, board =>
    if board.scheduler.cycles < limit then
      match board.stepWatched gun with
      | (true, board) => (true, board)
      | (false, board) => runFor gun limit fuel board
    else (false, board)

/-- Run instructions until the counter reaches `limit` or the program waits. An instruction may cost
nothing, but not all of one pass over the addresses do: the fuel is a pass for each unit left. -/
def runTo (board : Board μ σ) (gun : Option Lightgun) (limit : Nat) : Bool × Board μ σ :=
  runFor gun limit ((limit - board.scheduler.cycles) * addressCount) board

/-- Raise the interrupt that nothing masks. -/
def interrupt (board : Board μ σ) : Board μ σ :=
  match board with
  | ⟨cpu, bus, display, scheduler⟩ =>
    match cpu.nmi.run bus with
    | ((_, cpu), bus) =>
      let stats :=
        { scheduler.stats with displayInterrupts := scheduler.stats.displayInterrupts + 1 }
      ⟨cpu, bus, display, { scheduler with stats }⟩

/-- Charge the display chip's time on the bus, if it steals. -/
def chargeDisplay (board : Board μ σ) (cycles : Nat) : Board μ σ :=
  if board.scheduler.timing.cycleStealing then
    (board.mapScheduler fun scheduler =>
      { scheduler with
        cycles := scheduler.cycles + cycles
        stats := { scheduler.stats with dmaCycles := scheduler.stats.dmaCycles + cycles } })
      |>.advanceTimer (cycles / 4)
  else board

/-- Halt to the end of the line, which the timer goes on counting. -/
def halt (board : Board μ σ) : Board μ σ :=
  if board.scheduler.cycles < lineCycles then
    (board.advanceTimer ((lineCycles - board.scheduler.cycles) / 4)).mapScheduler
      ({ · with cycles := lineCycles })
  else board

/-- Give the sound chips the clocks of a line. -/
def clockSound (board : Board μ σ) (pokey : Bool) : Board μ σ :=
  board.mapBus fun bus =>
    let bus := bus.mapTia (SoundChip.process · soundClocks)
    if pokey then bus.mapPokey fun chip => SoundChip.scanline (SoundChip.process chip soundClocks)
    else bus

variable [DisplayChip μ]

/-- Let the display chip draw a line. -/
def drawLine (board : Board μ σ) (line : Nat) : Board μ σ :=
  match board with
  | ⟨cpu, bus, display, scheduler⟩ =>
    match DisplayChip.render display line bus.memory with
    | (report, display) =>
      let board : Board μ σ := ⟨cpu, bus, display, scheduler⟩
      let board := if report.interrupt then board.interrupt else board
      board.chargeDisplay report.cycles

/-- Run one scanline. -/
def runLine (board : Board μ σ) (line : Nat) (gun : Option Lightgun) (pokey : Bool) :
    Board μ σ :=
  let board := (board.beginLine line).strobe gun
  let (halted, board) := board.runTo gun board.scheduler.timing.hblank
  let board := board.drawLine line
  let (halted, board) := if halted then (true, board) else board.runTo gun lineCycles
  let board := if halted then board.halt else board
  (board.strobe gun).clockSound pokey

/-- The light gun is looked at in frames that start without display access. -/
def activeGun? (board : Board μ σ) (gun : Lightgun) : Option Lightgun :=
  if board.scheduler.timing.lightgun && !board.bus.memory.dmaEnabled then some gun else none

/-- Start a frame. -/
def beginFrame (board : Board μ σ) (pokey : Bool) : Board μ σ :=
  let board := board.mapScheduler ({ · with stats := {} })
  if pokey then board.mapBus (·.mapPokey SoundChip.frame) else board

/-- Count a finished frame. -/
def endFrame (board : Board μ σ) : Board μ σ :=
  board.mapScheduler fun scheduler =>
    let frame := scheduler.frame + 1
    { scheduler with
      frame := if frame < scheduler.timing.region.frequency then frame else 0 }

/-- Run `count` lines, the first of which is `line`. -/
def runLines (gun : Option Lightgun) (pokey : Bool) : Nat → Nat → Board μ σ → Board μ σ
  | 0, _, board => board
  | count + 1, line, board => runLines gun pokey count (line + 1) (board.runLine line gun pokey)

/-- Run one frame. The controls have been applied. -/
def runFrame (board : Board μ σ) (gun : Lightgun) : Board μ σ :=
  let pokey := board.bus.pokeyActive
  let gun? := board.activeGun? gun
  let lines := board.scheduler.timing.region.scanlines
  (runLines gun? pokey lines 1 (board.beginFrame pokey)).endFrame

end

end Board
end Console7800
