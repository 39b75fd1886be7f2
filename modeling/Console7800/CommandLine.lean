import Console7800.CommandLine.Arguments
import Console7800.CommandLine.Files
import Console7800.Config.Toml
import Console7800.Console.Gauges
import Console7800.SaveState

/-!
# The command line

Set a console up, load a cartridge, run some frames, write what is to be kept and print the
registers. The first thing that fails ends the job with a message.
-/

namespace Console7800.CommandLine

variable {m : Type → Type} [Monad m] [Files m]

/-- A step that may end the job with a message. -/
abbrev Job (m : Type → Type) (α : Type) : Type := ExceptT String m α

/-- What the job leaves: the exit code, what is printed, and the message of a failure. -/
structure Outcome where
  code : Nat
  output : String := ""
  message : Option String := none
  deriving Repr, DecidableEq

/-- End the job with a message, if there is an error. -/
def orFail {α ε : Type} (describe : ε → String) (result : Except ε α) : Job m α :=
  match result with
  | .ok value => pure value
  | .error error => throw (describe error)

/-- Read a file; `subject` says what the message of a failure starts with. -/
def readFile (subject path : String) : Job m Bytes := do
  let result : Except FileError Bytes ← (Files.read path : m _)
  orFail (fun error => subject ++ path ++ ": " ++ error.message) result

/-- Read a file that holds text. -/
def readText (subject path : String) : Job m String := do
  let data ← readFile subject path
  match String.fromUTF8? ⟨data⟩ with
  | some text => pure text
  | none => throw (subject ++ path ++ ": " ++ FileError.notText.message)

def writeFile (subject path : String) (data : Bytes) : Job m Unit := do
  let result : Except FileError Unit ← (Files.write path data : m _)
  orFail (fun error => subject ++ path ++ ": " ++ error.message) result

def loadConfig (arguments : Arguments) : Job m Config := do
  let config ← match arguments.config with
    | none => pure {}
    | some path =>
      match Config.parse? (← readText "failed to read config " path) with
      | some config => pure config
      | none => throw "config file parsing error"
  return { config with
    database := arguments.database <|> config.database
    bios := arguments.bios <|> config.bios }

/-- The high-score cartridge of a configuration. Battery RAM that has no file yet is left out. -/
def loadHighScore (rom : String) (sram : Option String) : Job m HighScoreCart := do
  let romData ← readFile "failed to read " rom
  let sramData ← match sram with
    | none => pure none
    | some path =>
      match ← (Files.read path : m _) with
      | .ok data => pure (some data)
      | .error .notFound => pure none
      | .error error => throw ("failed to read " ++ path ++ ": " ++ error.message)
  orFail ImageError.message (HighScoreCart.load romData sramData)

/-- The console with everything that the configuration names. -/
def setUp (config : Config) : Job m (Console IdleDisplay SilentSound) := do
  let mut console := Console.standard config
  if let some path := config.database then
    let text ← readText "failed to read database " path
    let database ← orFail Database.Error.message (Database.parse text)
    console := { console with database := some database }
  if let some path := config.bios then
    let boot ← orFail ImageError.message (BootRom.load (← readFile "failed to read " path))
    console := console.setBoot (some boot)
  if let some rom := config.highScoreRom then
    let cart ← loadHighScore rom config.highScoreSram
    console := { console with highScore := some cart }
  return console

def loadRom (console : Console IdleDisplay SilentSound) (path : String) :
    Job m (Console IdleDisplay SilentSound) := do
  let (result, console) := console.loadCartridge (← readFile "" path)
  orFail ImageError.message result
  return console

def loadStateFile (console : Console IdleDisplay SilentSound) (path : String) :
    Job m (Console IdleDisplay SilentSound) := do
  let (result, console) := console.loadStateWarm (← readFile "save state I/O on " path)
  orFail StateError.message result
  return console

/-- The text of a register, its name filled up to three letters. -/
def registerLine (console : Console IdleDisplay SilentSound) (name path : String) : String :=
  match console.read? path with
  | some reading => "  " ++ name ++ " " ++ reading.show ++ "\n"
  | none => ""

def dump (console : Console IdleDisplay SilentSound) : String :=
  "CPU state:\n" ++ registerLine console "PC " "cpu.pc" ++ registerLine console "A  " "cpu.a" ++
    registerLine console "X  " "cpu.x" ++ registerLine console "Y  " "cpu.y" ++
    registerLine console "S  " "cpu.s" ++ registerLine console "P  " "cpu.p" ++
    registerLine console "bank" "cartridge.bank"

/-- Do what the arguments ask for; the result is what is printed. -/
def job (arguments : Arguments) : Job m String := do
  let config ← loadConfig arguments
  let console ← setUp config
  let console ← loadRom console arguments.rom
  let console ← match arguments.loadState with
    | some path => loadStateFile console path
    | none => pure console
  let console := Console.runFrames arguments.frames console
  if let some path := arguments.saveState then
    writeFile "save state I/O on " path console.saveState
  if let some path := config.highScoreSram then
    if let some sram := console.keptSram? then
      writeFile "failed to read " path sram
  return if arguments.dumpCpu then dump console else ""

/-- Run a command line. -/
def run (arguments : List String) : m Outcome := do
  match parse arguments with
  | .error .help => return { code := 0 }
  | .error .misuse => return { code := 2 }
  | .ok arguments =>
    match ← (job arguments).run with
    | .ok output => return { code := 0, output }
    | .error message => return { code := 1, message := some ("Error: " ++ message) }

end Console7800.CommandLine
