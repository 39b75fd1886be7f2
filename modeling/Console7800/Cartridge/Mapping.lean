import Console7800.Cartridge
import Console7800.Memory

/-!
# Mapping a cartridge

Copying parts of an image into memory: all of it at power-on, a bank when a program selects one. A
part that lies past the end of the image is cut short, and a bank that starts past it is not
selected.
-/

namespace Console7800.Cartridge

/-- Where a bank starts in the image. Small supercarts decode two bits of its number. -/
def bankOffset (cartridge : Cartridge) (bank : UInt8) : Nat :=
  let small := cartridge.mapper = .supercart ∨ cartridge.mapper = .supercartRom ∨
    cartridge.mapper = .supercartRam
  if small ∧ cartridge.image.size ≤ 0x10000 then bank.toNat % 4 * bankSize
  else bank.toNat * bankSize

/-- Up to `count` bytes of the image. -/
def part (cartridge : Cartridge) (offset count : Nat) : Bytes :=
  cartridge.image.extract offset (offset + count)

/-- Put a bank that starts inside the image into the window. -/
def selectBank (cartridge : Cartridge) (memory : Memory) (bank : UInt8) : Cartridge × Memory :=
  match cartridge.mapper.window? with
  | none => (cartridge, memory)
  | some window =>
    let offset := cartridge.bankOffset bank
    if offset < cartridge.image.size then
      ({ cartridge with bank }, memory.writeRom window (cartridge.part offset bankSize))
    else (cartridge, memory)

/-- The layout at power-on. The bank that was selected before is not put into the window. -/
def install (cartridge : Cartridge) (memory : Memory) : Memory :=
  let size := cartridge.image.size
  match cartridge.mapper with
  | .normal =>
    let shown := min size 0x10000
    if shown = 0 then memory
    else memory.writeRom (UInt16.ofNat (0x10000 - shown)) (cartridge.part (size - shown) shown)
  | .supercart =>
    if size < bankSize then memory
    else memory.writeRom 0xC000 (cartridge.part (size - bankSize) bankSize)
  | .supercartLarge =>
    if size < bankSize then memory
    else
      let memory := memory.writeRom 0xC000 (cartridge.part (size - bankSize) bankSize)
      memory.writeRom 0x4000 (cartridge.part 0 bankSize)
  | .supercartRam =>
    if size < bankSize then memory
    else
      let memory := memory.writeRom 0xC000 (cartridge.part (size - bankSize) bankSize)
      memory.clearRom 0x4000 bankSize
  | .supercartRom =>
    if size < 2 * bankSize then memory
    else
      let memory := memory.writeRom 0xC000 (cartridge.part (size - bankSize) bankSize)
      memory.writeRom 0x4000 (cartridge.part (size - 2 * bankSize) bankSize)
  | .absolute =>
    let memory := memory.writeRom 0x4000 (cartridge.part 0 bankSize)
    memory.writeRom 0x8000 (cartridge.part (2 * bankSize) (2 * bankSize))
  | .activision =>
    if size ≤ 122880 then memory
    else
      let memory := memory.writeRom 0xA000 (cartridge.part 0 bankSize)
      let memory := memory.writeRom 0x4000 (cartridge.part 106496 8192)
      let memory := memory.writeRom 0x6000 (cartridge.part 98304 8192)
      let memory := memory.writeRom 0x8000 (cartridge.part 122880 8192)
      memory.writeRom 0xE000 (cartridge.part 114688 8192)

/-- The bank that a program's write to protected memory selects, if it selects one. -/
def selectedBank? (cartridge : Cartridge) (address : UInt16) (value : UInt8) : Option UInt8 :=
  let inWindow := 0x8000 ≤ address ∧ address < 0xC000 ∧
    value.toNat < cartridge.image.size / bankSize
  match cartridge.mapper with
  | .normal => none
  | .supercart | .supercartRam | .supercartRom => if inWindow then some value else none
  | .supercartLarge => if inWindow then some (value + 1) else none
  | .absolute => if address = 0x8000 ∧ (value = 1 ∨ value = 2) then some (value - 1) else none
  | .activision => if 0xFF80 ≤ address then some (address &&& 7).toUInt8 else none

/-- A program's write to protected memory. -/
def romWrite (cartridge : Cartridge) (memory : Memory) (address : UInt16) (value : UInt8) :
    Cartridge × Memory :=
  match cartridge.selectedBank? address value with
  | some bank => cartridge.selectBank memory bank
  | none => (cartridge, memory)

end Console7800.Cartridge
