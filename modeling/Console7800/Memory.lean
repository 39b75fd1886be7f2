import Console7800.FlatRam

/-!
# Console memory

64 KB of bytes, each with a flag that protects it from program writes. Cartridge space, from $4000
up, is protected at power-on, so that stray writes reach the mapper.
-/

namespace Console7800

/-! ## Addresses -/

def inputControl : UInt16 := 0x0001

/-- The first of six button latches. -/
def firstInputLatch : UInt16 := 0x0008

def lastInputLatch : UInt16 := 0x000D

def waitSync : UInt16 := 0x0024

/-- Bit 7 is set while the beam is outside the display. -/
def displayStatus : UInt16 := 0x0028

def displayControl : UInt16 := 0x003C

def firstSoundRegister : UInt16 := 0x0015

def lastSoundRegister : UInt16 := 0x001A

def riotStart : UInt16 := 0x0280

def riotEnd : UInt16 := 0x029F

/-- Where cartridge space starts. -/
def cartridgeStart : Nat := 0x4000

structure Memory where
  ram : Vector UInt8 addressCount
  rom : Vector Bool addressCount
  deriving DecidableEq

namespace Memory

/-- All bytes zero, cartridge space protected. -/
def powerOn : Memory where
  ram := .replicate addressCount 0
  rom := Cells.fill (.replicate addressCount true) 0 cartridgeStart false

def read (memory : Memory) (address : UInt16) : UInt8 :=
  have : address.toNat < addressCount := address.toNat_lt
  memory.ram[address.toNat]

def isRom (memory : Memory) (address : UInt16) : Bool :=
  have : address.toNat < addressCount := address.toNat_lt
  memory.rom[address.toNat]

/-- Store one byte, protected or not. -/
def poke (memory : Memory) (address : UInt16) (value : UInt8) : Memory :=
  match memory with
  | ⟨ram, rom⟩ => ⟨ram.set address.toNat value address.toNat_lt, rom⟩

/-- The address that shadows `address`: the upper three quarters of page zero and of page one are
seen again at $2000 higher. -/
def shadow? (address : UInt16) : Option UInt16 :=
  if 0x2040 ≤ address ∧ address ≤ 0x20FF ∨ 0x2140 ≤ address ∧ address ≤ 0x21FF then
    some (address - 0x2000)
  else if 0x0040 ≤ address ∧ address ≤ 0x00FF ∨ 0x0140 ≤ address ∧ address ≤ 0x01FF then
    some (address + 0x2000)
  else none

/-- Store one byte and keep its shadow in step. -/
def store (memory : Memory) (address : UInt16) (value : UInt8) : Memory :=
  let memory := memory.poke address value
  match shadow? address with
  | some shadow => memory.poke shadow value
  | none => memory

/-- Copy `data` to `address` and protect it. -/
def writeRom (memory : Memory) (address : UInt16) (data : Bytes) : Memory :=
  match memory with
  | ⟨ram, rom⟩ =>
    ⟨Cells.overwrite ram address.toNat data, Cells.fill rom address.toNat data.size true⟩

/-- Make `count` bytes at `address` writable zeros. -/
def clearRom (memory : Memory) (address : UInt16) (count : Nat) : Memory :=
  match memory with
  | ⟨ram, rom⟩ => ⟨Cells.fill ram address.toNat count 0, Cells.fill rom address.toNat count false⟩

/-- Copy `data` to `address` whatever is protected. -/
def load (memory : Memory) (address : UInt16) (data : Bytes) : Memory :=
  match memory with
  | ⟨ram, rom⟩ => ⟨Cells.overwrite ram address.toNat data, rom⟩

/-- Up to `count` bytes from `address` on. -/
def slice (memory : Memory) (address : UInt16) (count : Nat) : Bytes :=
  memory.ram.toArray.extract address.toNat (address.toNat + count)

theorem read_poke (memory : Memory) (address other : UInt16) (value : UInt8) :
    (memory.poke address value).read other =
      if address = other then value else memory.read other := by
  simp [read, poke, Vector.getElem_set, UInt16.toNat_inj]

theorem isRom_poke (memory : Memory) (address other : UInt16) (value : UInt8) :
    (memory.poke address value).isRom other = memory.isRom other := by
  simp [isRom, poke]

/-! ## Display DMA -/

/-- The program has turned the display's memory access on. -/
def dmaEnabled (memory : Memory) : Bool := memory.read displayControl &&& 0x60 == 0x40

/-- The beam is outside the display. -/
def inBlank (memory : Memory) : Bool := memory.read displayStatus &&& 0x80 != 0

end Memory
end Console7800
