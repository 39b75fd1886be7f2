import Console7800.Bus
import Console7800.Cells

/-!
# Flat RAM

A bus of 64 KB on which every address holds a byte and nothing else happens.
-/

namespace Console7800

/-- The number of addresses on a bus. -/
abbrev addressCount : Nat := 65536

structure FlatRam where
  bytes : Vector UInt8 addressCount := .replicate addressCount 0

namespace FlatRam

def peek (ram : FlatRam) (address : UInt16) : UInt8 :=
  have : address.toNat < addressCount := address.toNat_lt
  ram.bytes[address.toNat]

def poke (ram : FlatRam) (address : UInt16) (value : UInt8) : FlatRam :=
  match ram with
  | ⟨bytes⟩ => ⟨bytes.set address.toNat value address.toNat_lt⟩

/-- Put `data` at `address`, going on at 0 after the last address. -/
def load (ram : FlatRam) (address : UInt16) (data : Bytes) : FlatRam :=
  (data.foldl (fun (ram, address) byte => (ram.poke address byte, address + 1)) (ram, address)).1

theorem peek_poke (ram : FlatRam) (address other : UInt16) (value : UInt8) :
    (ram.poke address value).peek other = if address = other then value else ram.peek other := by
  simp [peek, poke, Vector.getElem_set, UInt16.toNat_inj]

end FlatRam

instance : Bus FlatRam where
  read ram address := (ram.peek address, ram)
  write := FlatRam.poke

end Console7800
