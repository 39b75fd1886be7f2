import Console7800.Console

/-!
# Saved states

| Offset | Size   | Contents |
|--------|--------|----------|
| 0      | 16     | magic |
| 16     | 5      | version 1 and four zeros |
| 21     | 32     | digest of the cartridge, in hexadecimal |
| 53     | 7      | A, X, Y, P, S, PC low, PC high |
| 60     | 1      | bank |
| 61     | 16384  | RAM from $0000 |
|        | 16384  | RAM from $4000, if the cartridge has it |
|        | 8      | pins and timer |
|        | 131073 | expansion module |

A state may lack the blocks after the RAM; its size tells which it has. It is checked against the
mounted cartridge before anything is touched.
-/

namespace Console7800

inductive StateError where
  | badSize (size : Nat)
  | badMagic
  | noCartridge
  | digestMismatch (state cartridge : String)
  | missingExpansionRam
  deriving Repr, DecidableEq

def StateError.message : StateError → String
  | .badSize size => s!"save state has an invalid size ({size} bytes)"
  | .badMagic => "file is not a ProSystem save state"
  | .noCartridge => "no cartridge is loaded"
  | .digestMismatch state cartridge =>
    s!"save state digest {state} does not match the loaded cartridge {cartridge}"
  | .missingExpansionRam => "save state lacks the expansion RAM block this cartridge needs"

namespace SaveState

def magic : Bytes := Text.asciiBytes "PRO-SYSTEM STATE"

def version : UInt8 := 1

/-- Where the digest is. -/
def digestStart : Nat := 21

def registersStart : Nat := 53

def bankStart : Nat := 60

def ramStart : Nat := 61

/-- The size of a block of console RAM. -/
def ramSize : Nat := 16384

/-- Which blocks follow the RAM. -/
structure Layout where
  expansionRam : Bool
  riot : Bool
  xm : Bool
  deriving Repr, DecidableEq

namespace Layout

/-- Where the pins and timer are, or would be. -/
def riotStart (layout : Layout) : Nat :=
  ramStart + ramSize + (if layout.expansionRam then ramSize else 0)

/-- Where the expansion module is, or would be. -/
def xmStart (layout : Layout) : Nat :=
  layout.riotStart + (if layout.riot then Riot.snapshotSize else 0)

def size (layout : Layout) : Nat :=
  layout.xmStart + (if layout.xm then ExpansionModule.snapshotSize else 0)

/-- The layouts that are accepted. -/
def all : List Layout := [
  ⟨false, false, false⟩, ⟨true, false, false⟩, ⟨false, true, false⟩, ⟨true, true, false⟩,
  ⟨false, true, true⟩, ⟨true, true, true⟩]

def ofSize? (size : Nat) : Option Layout := all.find? (·.size = size)

end Layout

/-- The parts of a state that a cartridge has a use for. -/
structure Parts where
  registers : Registers
  bank : UInt8
  ram : Bytes
  expansionRam : Option Bytes
  riot : Option Bytes
  xm : Option Bytes

/-- The registers as they are stored. -/
def registerBytes (r : Registers) : Bytes :=
  #[r.a, r.x, r.y, r.p.toByte, r.s, lowByte r.pc, highByte r.pc]

def registersOf (data : Bytes) : Registers where
  a := data.getD 0 0
  x := data.getD 1 0
  y := data.getD 2 0
  p := .ofByte (data.getD 3 0)
  s := data.getD 4 0
  pc := wordOf (data.getD 5 0) (data.getD 6 0)

def block (data : Bytes) (start size : Nat) : Bytes := data.extract start (start + size)

/-- The cartridge has RAM at $4000. -/
def hasExpansionRam (cartridge : Cartridge) : Bool := cartridge.mapper == .supercartRam

/-- The parts of a state of a given layout. -/
def partsOf (layout : Layout) (data : Bytes) (cartridge : Cartridge) : Parts where
  registers := registersOf (block data registersStart 7)
  bank := data.getD bankStart 0
  ram := block data ramStart ramSize
  expansionRam :=
    if layout.expansionRam && hasExpansionRam cartridge then
      some (block data (ramStart + ramSize) ramSize)
    else none
  riot := if layout.riot then some (block data layout.riotStart Riot.snapshotSize) else none
  xm :=
    if layout.xm && cartridge.expansion then
      some (block data layout.xmStart ExpansionModule.snapshotSize)
    else none

/-- Check a state against the mounted cartridge. -/
def parse (data : Bytes) (cartridge? : Option Cartridge) : Except StateError Parts :=
  match Layout.ofSize? data.size with
  | none => .error (.badSize data.size)
  | some layout =>
    if block data 0 magic.size ≠ magic then .error .badMagic
    else match cartridge? with
      | none => .error .noCartridge
      | some cartridge =>
        let digest := block data digestStart 32
        if digest ≠ Text.asciiBytes cartridge.digest then
          .error (.digestMismatch (String.ofList (Text.decodeLossy digest.toList)) cartridge.digest)
        else if hasExpansionRam cartridge ∧ ¬layout.expansionRam then .error .missingExpansionRam
        else .ok (partsOf layout data cartridge)

end SaveState

namespace Console

variable {μ σ : Type}

/-- The state of the console, or nothing without a cartridge. -/
def saveState (console : Console μ σ) : Bytes :=
  match console.cartridge? with
  | none => #[]
  | some cartridge =>
    let bus := console.board.bus
    SaveState.magic ++ #[SaveState.version, 0, 0, 0, 0] ++ Text.asciiBytes cartridge.digest ++
      SaveState.registerBytes console.board.cpu.registers ++ #[cartridge.bank] ++
      bus.memory.slice 0 SaveState.ramSize ++
      (if SaveState.hasExpansionRam cartridge then bus.memory.slice 0x4000 SaveState.ramSize
        else #[]) ++
      bus.riot.snapshot ++
      (match bus.xm with
        | some xm => xm.snapshot
        | none => #[])

variable [SoundChip σ] [DisplayChip μ]

/-- Put the parts of a state in place of what a reset left. -/
def restore (console : Console μ σ) (parts : SaveState.Parts) : Console μ σ :=
  console.mapBoard fun ⟨cpu, bus, display, scheduler⟩ =>
    let bus := bus.selectBank parts.bank
    let bus := bus.mapMemory (·.load 0 parts.ram)
    let bus := match parts.expansionRam with
      | some ram => bus.mapMemory (·.load 0x4000 ram)
      | none => bus
    let bus := match parts.riot with
      | some data => bus.mapRiot (·.restore data)
      | none => bus
    let bus := match parts.xm with
      | some data => bus.mapModule (·.restore data)
      | none => bus
    ⟨{ cpu with registers := parts.registers }, bus, display, scheduler⟩

/-- Load a state. One that is rejected changes nothing. -/
def loadState (console : Console μ σ) (data : Bytes) : Except StateError Unit × Console μ σ :=
  match SaveState.parse data console.cartridge? with
  | .error error => (.error error, console)
  | .ok parts => (.ok (), (console.resetFor true).restore parts)

/-- Run a second of frames, then load a state. One that is rejected changes nothing. -/
def loadStateWarm (console : Console μ σ) (data : Bytes) :
    Except StateError Unit × Console μ σ :=
  match SaveState.parse data console.cartridge? with
  | .error error => (.error error, console)
  | .ok _ => console.runTestFrames.loadState data

end Console
end Console7800
