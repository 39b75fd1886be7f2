import Console7800.Cells

/-!
# Expansion module

128 KB of RAM seen through a window of 16 KB, and a socket for a sound chip. The control latch at
$0470 has the bank in bits 0 to 2, turns the RAM on with bit 3 and the sound chip with bit 4, and
cannot be read.
-/

namespace Console7800

structure ExpansionModule where
  ram : Vector UInt8 131072
  control : UInt8

namespace ExpansionModule

def ramSize : Nat := 131072

/-- The size of a bank and of the window. -/
def bankSize : Nat := 16384

/-- The size of a snapshot: the control latch and the RAM. -/
def snapshotSize : Nat := 1 + ramSize

def powerOn : ExpansionModule where
  ram := .replicate 131072 0
  control := 0

def bank (xm : ExpansionModule) : Nat := xm.control.toNat % 8

def ramEnabled (xm : ExpansionModule) : Bool := xm.control &&& 0x08 != 0

def pokeyEnabled (xm : ExpansionModule) : Bool := xm.control &&& 0x10 != 0

/-- What in the module answers an address. -/
inductive Target where
  | pokey (register : UInt8)
  | ram (offset : Fin 131072)
  | control
  deriving Repr, DecidableEq

/-- What answers `address` as the control latch stands. -/
def decode? (xm : ExpansionModule) (address : UInt16) : Option Target :=
  if 0x0450 ≤ address ∧ address ≤ 0x046F then
    if xm.pokeyEnabled then some (.pokey (address &&& 0x0F).toUInt8) else none
  else if 0x0470 ≤ address ∧ address ≤ 0x047F then some .control
  else if h : 0x4000 ≤ address ∧ address ≤ 0x7FFF then
    have inWindow : xm.bank * bankSize + (address.toNat - 0x4000) < 131072 := by
      have hi := UInt16.le_iff_toNat_le.1 h.2
      have : xm.bank < 8 := Nat.mod_lt _ (by decide)
      simp [bankSize] at *
      omega
    if xm.ramEnabled then some (.ram ⟨_, inWindow⟩) else none
  else none

def readRam (xm : ExpansionModule) (offset : Fin 131072) : UInt8 := xm.ram[offset]

def writeRam (xm : ExpansionModule) (offset : Fin 131072) (value : UInt8) : ExpansionModule :=
  match xm with
  | ⟨ram, control⟩ => ⟨ram.set offset value, control⟩

def snapshot (xm : ExpansionModule) : Bytes := #[xm.control] ++ xm.ram.toArray

theorem size_snapshot (xm : ExpansionModule) : xm.snapshot.size = snapshotSize := by
  simp [snapshot, snapshotSize, ramSize]

/-- Take from a snapshot what it holds; an empty one changes nothing. -/
def restore (xm : ExpansionModule) (data : Bytes) : ExpansionModule :=
  match data[0]? with
  | none => xm
  | some control => ⟨Cells.overwrite xm.ram 0 (data.extract 1 data.size), control⟩

end ExpansionModule
end Console7800
