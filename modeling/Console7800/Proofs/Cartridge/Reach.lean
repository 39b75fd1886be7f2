import Console7800.Cartridge.Mapping
import Console7800.Proofs.Memory

/-!
# What mapping a cartridge reaches

Mapping puts parts of the image, and zeros into the cartridge's RAM, at a few extents of the address
space (`Cartridge.extents`). What it leaves there does not depend on what was in memory; everywhere
else memory is left as it was (`overlays_install`). Parts that lie past the end of the image are cut
short, so an extent can be smaller than the place that the layout has for it, or empty.
-/

namespace Console7800

namespace Cartridge

open Memory (Overlays overlays_nil overlays_writeRom overlays_clearRom)

/-- The extents that mapping the cartridge settles, the last one first. -/
def extents (cartridge : Cartridge) : List (UInt16 × Nat) :=
  let size := cartridge.image.size
  match cartridge.mapper with
  | .normal =>
    let shown := min size 0x10000
    if shown = 0 then []
    else [(UInt16.ofNat (0x10000 - shown), (cartridge.part (size - shown) shown).size)]
  | .supercart =>
    if size < bankSize then []
    else [(0xC000, (cartridge.part (size - bankSize) bankSize).size)]
  | .supercartLarge =>
    if size < bankSize then []
    else [(0x4000, (cartridge.part 0 bankSize).size),
      (0xC000, (cartridge.part (size - bankSize) bankSize).size)]
  | .supercartRam =>
    if size < bankSize then []
    else [(0x4000, bankSize), (0xC000, (cartridge.part (size - bankSize) bankSize).size)]
  | .supercartRom =>
    if size < 2 * bankSize then []
    else [(0x4000, (cartridge.part (size - 2 * bankSize) bankSize).size),
      (0xC000, (cartridge.part (size - bankSize) bankSize).size)]
  | .absolute =>
    [(0x8000, (cartridge.part (2 * bankSize) (2 * bankSize)).size),
      (0x4000, (cartridge.part 0 bankSize).size)]
  | .activision =>
    if size ≤ 122880 then []
    else [(0xE000, (cartridge.part 114688 8192).size), (0x8000, (cartridge.part 122880 8192).size),
      (0x6000, (cartridge.part 98304 8192).size), (0x4000, (cartridge.part 106496 8192).size),
      (0xA000, (cartridge.part 0 bankSize).size)]

/-- Mapping the cartridge settles what is at the address. -/
def Reaches (cartridge : Cartridge) (address : UInt16) : Prop :=
  Memory.Covers cartridge.extents address

instance (cartridge : Cartridge) (address : UInt16) : Decidable (cartridge.Reaches address) :=
  inferInstanceAs (Decidable (Memory.Covers _ _))

theorem overlays_install (cartridge : Cartridge) :
    Overlays cartridge.extents cartridge.install := by
  have hcopy {extents : List (UInt16 × Nat)} {f : Memory → Memory} (start : UInt16) (data : Bytes)
      (h : Overlays extents f) :
      Overlays ((start, data.size) :: extents) fun memory => (f memory).writeRom start data :=
    h.cons (overlays_writeRom start data)
  unfold extents install
  dsimp only
  cases cartridge.mapper with
  | normal | supercart =>
    dsimp only
    split
    · exact overlays_nil
    · exact hcopy _ _ overlays_nil
  | supercartLarge | supercartRom =>
    dsimp only
    split
    · exact overlays_nil
    · exact hcopy _ _ (hcopy _ _ overlays_nil)
  | supercartRam =>
    dsimp only
    split
    · exact overlays_nil
    · exact (hcopy _ _ overlays_nil).cons (overlays_clearRom 0x4000 bankSize)
  | absolute => exact hcopy _ _ (hcopy _ _ overlays_nil)
  | activision =>
    dsimp only
    split
    · exact overlays_nil
    · exact hcopy _ _ (hcopy _ _ (hcopy _ _ (hcopy _ _ (hcopy _ _ overlays_nil))))

end Cartridge
end Console7800
