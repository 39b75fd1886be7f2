import Console7800.ImageError
import Console7800.Md5
import Console7800.Memory

/-!
# Boot ROM

An image of at most 64 KB that is mapped at the top of memory in place of the cartridge until its
program hands over.
-/

namespace Console7800

structure BootRom where
  image : Bytes
  positive : 0 < image.size
  fits : image.size ≤ 65536

namespace BootRom

def load (data : Bytes) : Except ImageError BootRom :=
  if h : 0 < data.size ∧ data.size ≤ 65536 then .ok ⟨data, h.1, h.2⟩
  else .error (.bootSize data.size)

def digest (boot : BootRom) : String := Md5.hexDigest boot.image

/-- Map the image so that it ends at $FFFF. -/
def install (boot : BootRom) (memory : Memory) : Memory :=
  memory.writeRom (UInt16.ofNat (65536 - boot.image.size)) boot.image

end BootRom
end Console7800
