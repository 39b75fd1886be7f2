import Console7800.SaveState

/-!
# Ranges that can be left

Mapping takes ranges out of a file and of an image and copies them to ranges of memory. A range that
is not all there ends the program, as does a difference below zero: then there is no result. Each
definition asks for its ranges in the order in which they are used.
-/

namespace Console7800

/-- A difference, unless it is below zero. -/
def minus? (a b : Nat) : Option Nat := if b ≤ a then some (a - b) else none

/-- The byte at an index, unless that is past the end. -/
def byte? (data : Bytes) (i : Nat) : Option UInt8 := data[i]?

/-- The bytes from `start` up to `stop`, unless they are not all there. -/
def slice? (data : Bytes) (start stop : Nat) : Option Bytes :=
  if start ≤ stop ∧ stop ≤ data.size then some (data.extract start stop) else none

namespace Cells

variable {α : Type} {n : Nat}

/-- Put `data` into the cells from `start` up to `stop`, unless they are not all there or not as
many. -/
def overwrite? (cells : Vector α n) (start stop : Nat) (data : Array α) : Option (Vector α n) :=
  if start ≤ stop ∧ stop ≤ n ∧ data.size = stop - start then some (overwrite cells start data)
  else none

/-- Put one value into the cells from `start` up to `stop`, unless they are not all there. -/
def fill? (cells : Vector α n) (start stop : Nat) (value : α) : Option (Vector α n) :=
  if start ≤ stop ∧ stop ≤ n then some (fill cells start (stop - start) value) else none

end Cells

namespace Memory

/-- How many of `count` bytes there is room for. -/
def room? (address : UInt16) (count : Nat) : Option Nat :=
  (minus? addressCount address.toNat).map (min count)

def writeRom? (memory : Memory) (address : UInt16) (data : Bytes) : Option Memory :=
  match memory with
  | ⟨ram, rom⟩ => do
    let count ← room? address data.size
    let data ← Console7800.slice? data 0 count
    let ram ← Cells.overwrite? ram address.toNat (address.toNat + count) data
    let rom ← Cells.fill? rom address.toNat (address.toNat + count) true
    return ⟨ram, rom⟩

def clearRom? (memory : Memory) (address : UInt16) (count : Nat) : Option Memory :=
  match memory with
  | ⟨ram, rom⟩ => do
    let count ← room? address count
    let ram ← Cells.fill? ram address.toNat (address.toNat + count) 0
    let rom ← Cells.fill? rom address.toNat (address.toNat + count) false
    return ⟨ram, rom⟩

def load? (memory : Memory) (address : UInt16) (data : Bytes) : Option Memory :=
  match memory with
  | ⟨ram, rom⟩ => do
    let count ← room? address data.size
    let data ← Console7800.slice? data 0 count
    let ram ← Cells.overwrite? ram address.toNat (address.toNat + count) data
    return ⟨ram, rom⟩

def slice? (memory : Memory) (address : UInt16) (count : Nat) : Option Bytes :=
  Console7800.slice? memory.ram.toArray address.toNat (min (address.toNat + count) addressCount)

end Memory

namespace Cartridge

/-! ## Reading a file -/

def sizeAt? (data : Bytes) (i : Nat) : Option Nat := do
  let first ← byte? data i
  let second ← byte? data (i + 1)
  let third ← byte? data (i + 2)
  let fourth ← byte? data (i + 3)
  return ((first.toNat * 256 + second.toNat) * 256 + third.toNat) * 256 + fourth.toNat

def headerTitle? (header : Bytes) : Option String := do
  let title ← slice? header 17 49
  let bytes ← slice? title 0 ((title.findIdx? (· == 0)).getD title.size)
  return String.ofList (Text.trim (Text.decodeLossy bytes.toList))

def withHeader? (cartridge : Cartridge) (header : Bytes) : Option Cartridge := do
  let title ← headerTitle? header
  let code ← byte? header 53
  let flags ← byte? header 54
  let left ← byte? header 55
  let right ← byte? header 56
  let region ← byte? header 57
  let extras ← byte? header 63
  let pokey450 := flags &&& 0x40 != 0
  return { cartridge with
    title
    mapper := headerMapper code flags cartridge.image.size
    pokey := pokey450 || flags &&& 0x01 != 0
    pokey450
    controllers := (left, right)
    region := .ofByte region
    flags := 0
    expansion := extras &&& 0x01 != 0 }

/-- `load`, with the header as a range of its own. -/
def load? (data : Bytes) : Option (Except ImageError Cartridge) :=
  if data.size ≤ headerSize then some (.error (.tooSmall data.size))
  else do
    let mark ← slice? data 1 3
    if mark = Text.asciiBytes ">>" then return .error .hackFormat
    let start ← slice? data 1 10
    if start = signature then
      let header ← slice? data 0 headerSize
      let declared ← sizeAt? header 49
      let available ← minus? data.size headerSize
      if available < declared then return .error (.truncated declared available)
      let image ← slice? data headerSize (headerSize + declared)
      let cartridge ← (ofImage image).withHeader? header
      return .ok cartridge
    else return .ok { ofImage data with mapper := .ofSize data.size }

/-! ## Mapping -/

/-- `part`. Both ends of the range are brought into the image. -/
def part? (cartridge : Cartridge) (offset count : Nat) : Option Bytes :=
  let stop := min (offset + count) cartridge.image.size
  slice? cartridge.image (min offset stop) stop

/-- Copy a part of the image. -/
def copyPart? (cartridge : Cartridge) (memory : Memory) (address : UInt16) (offset count : Nat) :
    Option Memory := do
  let data ← cartridge.part? offset count
  memory.writeRom? address data

/-- Where the bank that is so many banks before the end starts. -/
def bankFromEnd? (cartridge : Cartridge) (back : Nat) : Option Nat :=
  minus? cartridge.image.size (back * bankSize)

def selectBank? (cartridge : Cartridge) (memory : Memory) (bank : UInt8) :
    Option (Cartridge × Memory) :=
  match cartridge.mapper.window? with
  | none => some (cartridge, memory)
  | some window =>
    let offset := cartridge.bankOffset bank
    if offset < cartridge.image.size then do
      let memory ← cartridge.copyPart? memory window offset bankSize
      return ({ cartridge with bank }, memory)
    else some (cartridge, memory)

/-- `install`. An image that has no room for its last banks is left out, and so is a flat one that
would start after the last address. -/
def install? (cartridge : Cartridge) (memory : Memory) : Option Memory :=
  match cartridge.mapper with
  | .normal => do
    let size := cartridge.image.size
    let shown := min size 0x10000
    let offset ← minus? size shown
    let data ← slice? cartridge.image offset size
    let start ← minus? 0x10000 shown
    if start < 0x10000 then memory.writeRom? (UInt16.ofNat start) data else some memory
  | .supercart =>
    match cartridge.bankFromEnd? 1 with
    | none => some memory
    | some last => cartridge.copyPart? memory 0xC000 last bankSize
  | .supercartLarge =>
    match cartridge.bankFromEnd? 1 with
    | none => some memory
    | some last => do
      let memory ← cartridge.copyPart? memory 0xC000 last bankSize
      cartridge.copyPart? memory 0x4000 (cartridge.bankOffset 0) bankSize
  | .supercartRam =>
    match cartridge.bankFromEnd? 1 with
    | none => some memory
    | some last => do
      let memory ← cartridge.copyPart? memory 0xC000 last bankSize
      memory.clearRom? 0x4000 bankSize
  | .supercartRom =>
    match cartridge.bankFromEnd? 1, cartridge.bankFromEnd? 2 with
    | some last, some second => do
      let memory ← cartridge.copyPart? memory 0xC000 last bankSize
      cartridge.copyPart? memory 0x4000 second bankSize
    | _, _ => some memory
  | .absolute => do
    let memory ← cartridge.copyPart? memory 0x4000 0 bankSize
    cartridge.copyPart? memory 0x8000 (cartridge.bankOffset 2) (2 * bankSize)
  | .activision =>
    if 122880 < cartridge.image.size then do
      let memory ← cartridge.copyPart? memory 0xA000 0 bankSize
      let memory ← cartridge.copyPart? memory 0x4000 106496 8192
      let memory ← cartridge.copyPart? memory 0x6000 98304 8192
      let memory ← cartridge.copyPart? memory 0x8000 122880 8192
      cartridge.copyPart? memory 0xE000 114688 8192
    else some memory

def romWrite? (cartridge : Cartridge) (memory : Memory) (address : UInt16) (value : UInt8) :
    Option (Cartridge × Memory) :=
  match cartridge.selectedBank? address value with
  | some bank => cartridge.selectBank? memory bank
  | none => some (cartridge, memory)

end Cartridge

def BootRom.install? (boot : BootRom) (memory : Memory) : Option Memory := do
  let start ← minus? 65536 boot.image.size
  if start < 65536 then memory.writeRom? (UInt16.ofNat start) boot.image else some memory

namespace SystemBus

variable {σ : Type}

/-- Map the cartridge, if there is one. -/
def installCartridge? (bus : SystemBus σ) : Option (SystemBus σ) :=
  match bus with
  | ⟨memory, riot, tia, pokey, some cartridge, xm, boot, bootEnabled⟩ => do
    let memory ← cartridge.install? memory
    return ⟨memory, riot, tia, pokey, some cartridge, xm, boot, bootEnabled⟩
  | bus => some bus

/-- Map the boot ROM, if there is one and it is enabled. -/
def installBoot? (bus : SystemBus σ) : Option (SystemBus σ) :=
  match bus with
  | ⟨memory, riot, tia, pokey, cartridge, xm, some boot, true⟩ => do
    let memory ← boot.install? memory
    return ⟨memory, riot, tia, pokey, cartridge, xm, some boot, true⟩
  | bus => some bus

def installAtPowerOn? (bus : SystemBus σ) : Option (SystemBus σ) :=
  if bus.boot.isSome ∧ bus.bootEnabled then bus.installBoot? else bus.installCartridge?

def romWrite? (bus : SystemBus σ) (address : UInt16) (value : UInt8) : Option (SystemBus σ) :=
  match bus with
  | ⟨memory, riot, tia, pokey, some cartridge, xm, boot, bootEnabled⟩ => do
    let (cartridge, memory) ← cartridge.romWrite? memory address value
    return ⟨memory, riot, tia, pokey, some cartridge, xm, boot, bootEnabled⟩
  | bus => some bus

def selectBank? (bus : SystemBus σ) (bank : UInt8) : Option (SystemBus σ) :=
  match bus with
  | ⟨memory, riot, tia, pokey, some cartridge, xm, boot, bootEnabled⟩ => do
    let (cartridge, memory) ← cartridge.selectBank? memory bank
    return ⟨memory, riot, tia, pokey, some cartridge, xm, boot, bootEnabled⟩
  | bus => some bus

/-- Put a block of a state into memory. -/
def load? (bus : SystemBus σ) (address : UInt16) (data : Bytes) : Option (SystemBus σ) :=
  match bus with
  | ⟨memory, riot, tia, pokey, cartridge, xm, boot, bootEnabled⟩ => do
    let memory ← memory.load? address data
    return ⟨memory, riot, tia, pokey, cartridge, xm, boot, bootEnabled⟩

end SystemBus

namespace Console

variable {μ σ : Type} [SoundChip σ]

def powerOnBus? (bus : SystemBus σ) : Option (SystemBus σ) := (clearedBus bus).installAtPowerOn?

variable [DisplayChip μ]

def resetFor? (console : Console μ σ) (loadingState : Bool) : Option (Console μ σ) :=
  (powerOnBus? console.board.bus).map (console.startOn loadingState)

def loadCartridge? (console : Console μ σ) (data : Bytes) :
    Option (Except ImageError Unit × Console μ σ) := do
  let console := console.release
  match ← Cartridge.load? data with
  | .error error => return (.error error, console)
  | .ok cartridge =>
    let cartridge := match console.database with
      | some database => (database.apply cartridge).2
      | none => cartridge
    let console ← (console.mapBus ({ · with cartridge := some cartridge })).resetFor? false
    return (.ok (), console)

def restore? (console : Console μ σ) (parts : SaveState.Parts) : Option (Console μ σ) := do
  let ⟨cpu, bus, display, scheduler⟩ := console.board
  let bus ← bus.selectBank? parts.bank
  let bus ← bus.load? 0 parts.ram
  let bus ← match parts.expansionRam with
    | some ram => bus.load? 0x4000 ram
    | none => some bus
  let bus := match parts.riot with
    | some data => bus.mapRiot (·.restore data)
    | none => bus
  let bus := match parts.xm with
    | some data => bus.mapModule (·.restore data)
    | none => bus
  return { console with
    board := ⟨{ cpu with registers := parts.registers }, bus, display, scheduler⟩ }

def loadState? (console : Console μ σ) (data : Bytes) :
    Option (Except StateError Unit × Console μ σ) :=
  match SaveState.parse data console.cartridge? with
  | .error error => some (.error error, console)
  | .ok parts => do
    let console ← console.resetFor? true
    let console ← console.restore? parts
    return (.ok (), console)

end Console
end Console7800
