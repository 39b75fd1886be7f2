import Console7800.Board
import Console7800.Config
import Console7800.Database
import Console7800.HighScore
import Console7800.InputQueue

/-!
# The console

A board with what is plugged into it and how it is set up. Loading a cartridge mounts it and resets.
A reset is a power cycle that keeps what is installed, the counts of frames and instructions, the
queued input, the levels on the pins and the point that the light gun is aimed at.
-/

namespace Console7800

structure Console (μ σ : Type) where
  board : Board μ σ
  lightgun : Lightgun := {}
  config : Config := {}
  database : Option Database := none
  highScore : Option HighScoreCart := none
  /-- The last reset mounted the high-score cartridge. -/
  highScoreMounted : Bool := false
  /-- What the next frame samples. -/
  controls : Controls := {}
  queue : InputQueue := {}
  /-- Frames run so far. -/
  frames : Nat := 0

namespace Console

variable {μ σ : Type}

def cartridge? (console : Console μ σ) : Option Cartridge := console.board.bus.cartridge

def region (console : Console μ σ) : Region := console.board.scheduler.timing.region

/-- Frames per second, as configured or as the region has them. -/
def frameRate (console : Console μ σ) : Nat :=
  console.config.frameRate.getD console.region.frequency

def mapBoard (console : Console μ σ) (f : Board μ σ → Board μ σ) : Console μ σ :=
  { console with board := f console.board }

def mapBus (console : Console μ σ) (f : SystemBus σ → SystemBus σ) : Console μ σ :=
  console.mapBoard (·.mapBus f)

/-- Install a boot ROM, which the next reset maps. -/
def setBoot (console : Console μ σ) (boot : Option BootRom) : Console μ σ :=
  console.mapBus ({ · with boot })

/-! ## Reset -/

/-- The timing of a mounted cartridge under a configuration. -/
def timingFor (config : Config) (cartridge : Option Cartridge) : Timing :=
  match cartridge with
  | none => {}
  | some cartridge => {
      region := cartridge.region
      hblank := cartridge.hblank
      waitSync := config.waitSync.resolve (cartridge.flags &&& 2 != 0)
      cycleStealing := config.cycleStealing.resolve (cartridge.flags &&& 1 != 0)
      lightgun := cartridge.controllers.1 == Cartridge.lightgunController && config.lightgun }

/-- The controls at power-on: nothing pressed, the switches as the cartridge wants them. -/
def controlsFor (timing : Timing) (cartridge : Option Cartridge) : Controls :=
  match cartridge with
  | none => { lightgun := timing.lightgun }
  | some cartridge => {
      leftDifficultyA := cartridge.switches.1 != 0
      rightDifficultyA := cartridge.switches.2 != 0
      swapButtons := cartridge.swapButtons
      lightgun := timing.lightgun }

variable [SoundChip σ]

/-- The bus as power-on leaves it, before anything is mapped. -/
def clearedBus (bus : SystemBus σ) : SystemBus σ where
  memory := .powerOn
  riot := bus.riot.reset
  tia := SoundChip.reset bus.tia
  pokey := SoundChip.reset bus.pokey
  cartridge := bus.cartridge
  xm := if bus.cartridge.any (·.expansion) then some .powerOn else none
  boot := bus.boot
  bootEnabled := bus.boot.isSome && !bus.cartridge.any (·.disableBios)

/-- The bus after power-on, with what starts on it mapped. -/
def powerOnBus (bus : SystemBus σ) : SystemBus σ := (clearedBus bus).installAtPowerOn

variable [DisplayChip μ]

/-- The high-score cartridge that a reset mounts, if it mounts one. -/
def mountedCart? (console : Console μ σ) (loadingState : Bool) (timing : Timing) :
    Option HighScoreCart :=
  if console.config.highScore.mounts loadingState ∧ timing.region = .ntsc then console.highScore
  else none

/-- What a reset does on the bus after power-on. -/
def startOn (console : Console μ σ) (loadingState : Bool) (bus : SystemBus σ) : Console μ σ :=
  let ⟨cpu, past, display, _⟩ := console.board
  let timing := timingFor console.config past.cartridge
  let mounted := console.mountedCart? loadingState timing
  let bus := match mounted with
    | some cart => (cart.mount.run bus).2
    | none => bus
  let controls := controlsFor timing bus.cartridge
  match cpu.reset.run bus with
  | ((cycles, cpu), bus) =>
    { console with
      board := {
        cpu, bus
        display := DisplayChip.reset display
        scheduler := { timing, cycles } }
      highScoreMounted := mounted.isSome
      controls }

/-- Cycle the power, for a saved state or for a fresh start. -/
def resetFor (console : Console μ σ) (loadingState : Bool) : Console μ σ :=
  console.startOn loadingState (powerOnBus console.board.bus)

def reset (console : Console μ σ) : Console μ σ := console.resetFor false

/-! ## Cartridges -/

/-- Take the cartridge out. Memory keeps what it mapped until the next reset. -/
def release (console : Console μ σ) : Console μ σ :=
  let console := console.mapBoard fun ⟨cpu, bus, display, scheduler⟩ =>
    ⟨cpu.clearHighScore, { bus with cartridge := none, xm := none }, display, scheduler⟩
  { console with highScoreMounted := false }

/-- Put a cartridge with its settings from the database in place of the mounted one, and reset. A
file that is no cartridge leaves the console without one and not reset. -/
def loadCartridge (console : Console μ σ) (data : Bytes) :
    Except ImageError Unit × Console μ σ :=
  let console := console.release
  match Cartridge.load data with
  | .error error => (.error error, console)
  | .ok cartridge =>
    let cartridge := match console.database with
      | some database => (database.apply cartridge).2
      | none => cartridge
    (.ok (), (console.mapBus ({ · with cartridge := some cartridge })).reset)

/-! ## Frames -/

/-- Put the controls on the pins and into the button latches of a board. -/
def sample (controls : Controls) (board : Board μ σ) : Board μ σ :=
  board.mapBus fun bus =>
    match bus with
    | ⟨memory, riot, tia, pokey, cartridge, xm, boot, bootEnabled⟩ =>
      match controls.apply riot memory with
      | (riot, memory) => ⟨memory, riot, tia, pokey, cartridge, xm, boot, bootEnabled⟩

/-- Run one frame with the given controls. -/
def runFrameWith (console : Console μ σ) (controls : Controls) : Console μ σ :=
  let gun := console.lightgun
  let console := console.mapBoard fun board => (sample controls board).runFrame gun
  { console with frames := console.frames + 1 }

/-- Run one frame after the input that has fallen due. -/
def runFrame (console : Console μ σ) : Console μ σ :=
  let (queue, controls) := console.queue.process console.frames console.controls
  runFrameWith { console with queue, controls } controls

def runFrames : Nat → Console μ σ → Console μ σ
  | 0, console => console
  | n + 1, console => runFrames n console.runFrame

def runFramesWith (controls : Controls) : Nat → Console μ σ → Console μ σ
  | 0, console => console
  | n + 1, console => runFramesWith controls n (console.runFrameWith controls)

/-- Nothing pressed, and the switches left as they are. -/
def testControls (console : Console μ σ) : Controls where
  lightgun := console.controls.lightgun
  leftDifficultyA := console.controls.leftDifficultyA
  rightDifficultyA := console.controls.rightDifficultyA

/-- Run one second of frames with nothing pressed and the switches left as they are. -/
def runTestFrames (console : Console μ σ) : Console μ σ :=
  runFramesWith console.testControls console.region.frequency console

/-- What to keep of the high-score cartridge's battery RAM. -/
def keptSram? (console : Console μ σ) : Option Bytes :=
  if console.highScoreMounted then
    HighScoreCart.keptSram? console.board.bus.memory console.board.cpu.highScoreEntered
  else none

end Console

/-- A console with the stand-in chips. -/
def Console.standard (config : Config) : Console IdleDisplay SilentSound where
  board := {
    bus := { tia := {}, pokey := {} }
    display := { cost := config.dmaCost.getD IdleDisplay.defaultCost } }
  config := config

end Console7800
