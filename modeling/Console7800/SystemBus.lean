import Console7800.BootRom
import Console7800.Bus
import Console7800.Cartridge.Mapping
import Console7800.ExpansionModule
import Console7800.Riot
import Console7800.SoundChip

/-!
# The console's bus

Who answers an address, first the expansion module, then the cartridge's sound chip. Of the other
addresses, a write to a protected one goes to the mapper; of the writable ones some are registers
and the rest is RAM.
-/

namespace Console7800

structure SystemBus (σ : Type) where
  memory : Memory := .powerOn
  riot : Riot := {}
  /-- The console's own sound chip. -/
  tia : σ
  /-- The sound chip on the cartridge or in the expansion module. -/
  pokey : σ
  cartridge : Option Cartridge := none
  xm : Option ExpansionModule := none
  boot : Option BootRom := none
  /-- The boot ROM is mapped at power-on and may be mapped again. -/
  bootEnabled : Bool := false

namespace SystemBus

variable {σ : Type}

/-- What is written to the input control latch to map the cartridge. -/
def mapCartridge : UInt8 := 22

/-- What is written to the input control latch to map the boot ROM. -/
def mapBoot : UInt8 := 2

/-- A sound chip on the cartridge or in the expansion module can be reached. -/
def pokeyActive (bus : SystemBus σ) : Bool :=
  bus.cartridge.any (·.pokey) || bus.xm.any (·.pokeyEnabled)

/-- What in the expansion module answers an address. -/
def moduleTarget? (bus : SystemBus σ) (address : UInt16) : Option ExpansionModule.Target :=
  match bus.xm with
  | some xm => xm.decode? address
  | none => none

/-- The register of the cartridge's sound chip at an address. -/
def pokeyRegister? (bus : SystemBus σ) (address : UInt16) : Option UInt8 :=
  match bus.cartridge with
  | some cartridge =>
    let offset := address - cartridge.pokeyBase
    if cartridge.pokey ∧ offset < 16 then some offset.toUInt8 else none
  | none => none

def isRiot (address : UInt16) : Bool := riotStart ≤ address && address ≤ riotEnd

/-- What a read would give, without its effects. Sound chips are not asked: their addresses show
what is in memory below them. -/
def peek (bus : SystemBus σ) (address : UInt16) : UInt8 :=
  match bus.xm, bus.moduleTarget? address with
  | some xm, some (.ram offset) => xm.readRam offset
  | _, _ => if isRiot address then bus.riot.peek address else bus.memory.read address

/-- Map the cartridge, if there is one. -/
def installCartridge (bus : SystemBus σ) : SystemBus σ :=
  match bus with
  | ⟨memory, riot, tia, pokey, some cartridge, xm, boot, bootEnabled⟩ =>
    ⟨cartridge.install memory, riot, tia, pokey, some cartridge, xm, boot, bootEnabled⟩
  | bus => bus

/-- Map the boot ROM, if there is one and it is enabled. -/
def installBoot (bus : SystemBus σ) : SystemBus σ :=
  match bus with
  | ⟨memory, riot, tia, pokey, cartridge, xm, some boot, true⟩ =>
    ⟨boot.install memory, riot, tia, pokey, cartridge, xm, some boot, true⟩
  | bus => bus

/-- Map what starts after power-on. -/
def installAtPowerOn (bus : SystemBus σ) : SystemBus σ :=
  if bus.boot.isSome ∧ bus.bootEnabled then bus.installBoot else bus.installCartridge

/-- A program's write to protected memory. -/
def romWrite (bus : SystemBus σ) (address : UInt16) (value : UInt8) : SystemBus σ :=
  match bus with
  | ⟨memory, riot, tia, pokey, some cartridge, xm, boot, bootEnabled⟩ =>
    match cartridge.romWrite memory address value with
    | (cartridge, memory) =>
      ⟨memory, riot, tia, pokey, some cartridge, xm, boot, bootEnabled⟩
  | bus => bus

/-- Select a bank of the mounted cartridge. -/
def selectBank (bus : SystemBus σ) (bank : UInt8) : SystemBus σ :=
  match bus with
  | ⟨memory, riot, tia, pokey, some cartridge, xm, boot, bootEnabled⟩ =>
    match cartridge.selectBank memory bank with
    | (cartridge, memory) =>
      ⟨memory, riot, tia, pokey, some cartridge, xm, boot, bootEnabled⟩
  | bus => bus

def mapMemory (bus : SystemBus σ) (f : Memory → Memory) : SystemBus σ :=
  match bus with
  | ⟨memory, riot, tia, pokey, cartridge, xm, boot, bootEnabled⟩ =>
    ⟨f memory, riot, tia, pokey, cartridge, xm, boot, bootEnabled⟩

def mapRiot (bus : SystemBus σ) (f : Riot → Riot) : SystemBus σ :=
  match bus with
  | ⟨memory, riot, tia, pokey, cartridge, xm, boot, bootEnabled⟩ =>
    ⟨memory, f riot, tia, pokey, cartridge, xm, boot, bootEnabled⟩

def mapModule (bus : SystemBus σ) (f : ExpansionModule → ExpansionModule) : SystemBus σ :=
  match bus with
  | ⟨memory, riot, tia, pokey, cartridge, xm, boot, bootEnabled⟩ =>
    ⟨memory, riot, tia, pokey, cartridge, xm.map f, boot, bootEnabled⟩

section

variable [SoundChip σ]

def mapTia (bus : SystemBus σ) (f : σ → σ) : SystemBus σ := { bus with tia := f bus.tia }

def mapPokey (bus : SystemBus σ) (f : σ → σ) : SystemBus σ := { bus with pokey := f bus.pokey }

def readPokey (bus : SystemBus σ) (register : UInt8) : UInt8 × SystemBus σ :=
  match SoundChip.read bus.pokey register with
  | (value, pokey) => (value, { bus with pokey })

/-- A read where the expansion module does not answer. -/
def readConsole (bus : SystemBus σ) (address : UInt16) : UInt8 × SystemBus σ :=
  match bus.pokeyRegister? address with
  | some register => bus.readPokey register
  | none =>
    if isRiot address then
      match bus.riot.read address with
      | (value, riot) => (value, { bus with riot })
    else (bus.memory.read address, bus)

def read (bus : SystemBus σ) (address : UInt16) : UInt8 × SystemBus σ :=
  match bus.xm, bus.moduleTarget? address with
  | some _, some (.pokey register) => bus.readPokey register
  | some xm, some (.ram offset) => (xm.readRam offset, bus)
  | _, _ => bus.readConsole address

/-- A program's write to writable memory. -/
def writeRegister (bus : SystemBus σ) (address : UInt16) (value : UInt8) : SystemBus σ :=
  if address = waitSync then bus.mapMemory (·.poke waitSync 1)
  else if address = inputControl then
    if value = mapCartridge then bus.installCartridge
    else if value = mapBoot then bus.installBoot
    else bus
  else if firstInputLatch ≤ address ∧ address ≤ lastInputLatch ∨ address = displayStatus then bus
  else if firstSoundRegister ≤ address ∧ address ≤ lastSoundRegister then
    (bus.mapTia (SoundChip.write · address.toUInt8 value)).mapMemory (·.poke address value)
  else if isRiot address then bus.mapRiot (·.write address value)
  else bus.mapMemory (·.store address value)

/-- A write that the expansion module does not take. -/
def writeConsole (bus : SystemBus σ) (address : UInt16) (value : UInt8) : SystemBus σ :=
  match bus.pokeyRegister? address with
  | some register => bus.mapPokey (SoundChip.write · register value)
  | none =>
    if bus.memory.isRom address then bus.romWrite address value
    else bus.writeRegister address value

def write (bus : SystemBus σ) (address : UInt16) (value : UInt8) : SystemBus σ :=
  match bus.moduleTarget? address with
  | some (.pokey register) => bus.mapPokey (SoundChip.write · register value)
  | some (.ram offset) => bus.mapModule (·.writeRam offset value)
  | some .control => bus.mapModule ({ · with control := value })
  | none => bus.writeConsole address value

instance : Bus (SystemBus σ) where
  read := read
  write := write

end

/-- Take the request to wait for the end of the line, if there is one. -/
def takeWait (bus : SystemBus σ) : Bool × SystemBus σ :=
  if bus.memory.read waitSync = 0 then (false, bus)
  else (true, bus.mapMemory (·.poke waitSync 0))

end SystemBus
end Console7800
