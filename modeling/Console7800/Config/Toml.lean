import Console7800.Config
import Console7800.Toml

/-!
# Configuration files

A configuration is a TOML document whose keys are the settings. A key that is no setting, or a value
of another kind or out of range, makes the whole file no configuration.
-/

namespace Console7800.Config

open Toml (Value Entries)

/-- The name in a choice: a string, or the only key of a table that says nothing more. -/
def choice? : Value → Option (List Char)
  | .string text => some text
  | .table _ [(key, value)] => if saysNothing value then some key else none
  | _ => none
where
  /-- An empty table or array. -/
  saysNothing : Value → Bool
    | .array items => items.isEmpty
    | .table _ entries => entries.isEmpty
    | _ => false

def featureMode? (value : Value) : Option FeatureMode :=
  (choice? value).bind fun name =>
    [FeatureMode.auto, .enabled, .disabled].find? (·.name.toList = name)

def highScoreMode? (value : Value) : Option HighScoreMode :=
  (choice? value).bind fun name =>
    [HighScoreMode.disabled, .enabled, .enabledSnapshots].find? (·.name.toList = name)

def flag? : Value → Option Bool
  | .boolean value => some value
  | _ => none

def text? : Value → Option String
  | .string text => some (String.ofList text)
  | _ => none

/-- An integer from 0 to below `bound`. -/
def number? (bound : Nat) : Value → Option Nat
  | .integer value => if 0 ≤ value ∧ value < bound then some value.toNat else none
  | _ => none

/-- Make one setting. -/
def set? (config : Config) (entry : Toml.Key × Value) : Option Config :=
  let (key, value) := entry
  match String.ofList key with
  | "wsync" => (featureMode? value).map ({ config with waitSync := · })
  | "cycle_stealing" => (featureMode? value).map ({ config with cycleStealing := · })
  | "lightgun" => (flag? value).map ({ config with lightgun := · })
  | "high_score" => (highScoreMode? value).map ({ config with highScore := · })
  | "high_score_rom" => (text? value).map fun path => { config with highScoreRom := some path }
  | "high_score_sram" => (text? value).map fun path => { config with highScoreSram := some path }
  | "bios" => (text? value).map fun path => { config with bios := some path }
  | "database" => (text? value).map fun path => { config with database := some path }
  | "frame_rate" => (number? 65536 value).map fun n => { config with frameRate := some n }
  | "dma_cost" => (number? 4294967296 value).map fun n => { config with dmaCost := some n }
  | _ => none

def parse? (text : String) : Option Config :=
  (Toml.parse? text).bind fun entries => entries.foldlM set? {}

end Console7800.Config
