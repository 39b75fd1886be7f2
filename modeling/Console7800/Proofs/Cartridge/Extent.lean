import Console7800.Proofs.Cartridge.Layout

/-!
# How far down a mapped image reaches

Mapping leaves alone what is below where it starts (`SameUnder`). All mappers but the flat one start
in cartridge space. A flat image ends at the last address, so one of more than 48 KB starts in
console RAM, and protects it (`Cartridge.isRom_install_flat`).
-/

namespace Console7800

namespace Memory

/-- Two memories show and protect the same below a limit. -/
def SameUnder (limit : Nat) (first second : Memory) : Prop :=
  ∀ address : UInt16, address.toNat < limit →
    first.read address = second.read address ∧ first.isRom address = second.isRom address

namespace SameUnder

variable {limit : Nat} {first second third : Memory}

theorem refl (limit : Nat) (memory : Memory) : SameUnder limit memory memory :=
  fun _ _ => ⟨rfl, rfl⟩

theorem trans (h₁ : SameUnder limit first second) (h₂ : SameUnder limit second third) :
    SameUnder limit first third := fun address hlt =>
  ⟨(h₁ address hlt).1.trans (h₂ address hlt).1, (h₁ address hlt).2.trans (h₂ address hlt).2⟩

theorem mono {lower : Nat} (h : SameUnder limit first second) (hle : lower ≤ limit) :
    SameUnder lower first second := fun address hlt => h address (Nat.lt_of_lt_of_le hlt hle)

end SameUnder

variable {limit : Nat} {start : UInt16}

theorem Overlays.sameUnder {extents : List (UInt16 × Nat)} {f : Memory → Memory}
    (h : Overlays extents f) (hlimit : ∀ extent ∈ extents, limit ≤ extent.1.toNat)
    (memory : Memory) : SameUnder limit (f memory) memory := by
  intro address hlt
  refine h.outside address ?_ memory
  rintro ⟨extent, hmem, hstart, -⟩
  have hle := hlimit extent hmem
  omega

theorem sameUnder_writeRom (memory : Memory) (data : Bytes) (h : limit ≤ start.toNat) :
    SameUnder limit (memory.writeRom start data) memory :=
  (overlays_writeRom start data).sameUnder (List.forall_mem_singleton.2 h) memory

end Memory

/-! ## Cartridges -/

namespace Cartridge

open Memory (SameUnder sameUnder_writeRom)

variable {cartridge : Cartridge}

/-- The lowest address that mapping the cartridge reaches. -/
def lowest (cartridge : Cartridge) : Nat :=
  if cartridge.mapper = .normal then 0x10000 - cartridge.image.size else cartridgeStart

theorem lowest_flat (h : cartridge.mapper = .normal) :
    cartridge.lowest = 0x10000 - cartridge.image.size := if_pos h

theorem lowest_banked (h : cartridge.mapper ≠ .normal) : cartridge.lowest = cartridgeStart :=
  if_neg h

/-- Only a flat image of more than 48 KB reaches below cartridge space. -/
theorem cartridgeStart_le_lowest_iff :
    cartridgeStart ≤ cartridge.lowest ↔
      (cartridge.mapper = .normal → cartridge.image.size ≤ 0xC000) := by
  by_cases h : cartridge.mapper = .normal
  · rw [lowest_flat h, cartridgeStart, imp_iff_right h]
    omega
  · simp [lowest_banked h, h]

/-- A flat image is copied in one piece that ends at the last address. -/
theorem exists_install_flat (h : cartridge.mapper = .normal) (hpos : 0 < cartridge.image.size) :
    ∃ (start : UInt16) (data : Bytes), start.toNat = cartridge.lowest ∧
      start.toNat + data.size = 0x10000 ∧
      ∀ memory, cartridge.install memory = memory.writeRom start data := by
  let shown := min cartridge.image.size 0x10000
  have hshown : 0 < shown := by omega
  have hstart : (UInt16.ofNat (0x10000 - shown)).toNat = 0x10000 - shown := by
    rw [UInt16.toNat_ofNat']
    exact Nat.mod_eq_of_lt (by omega)
  refine ⟨.ofNat (0x10000 - shown), cartridge.part (cartridge.image.size - shown) shown,
    ?_, ?_, fun memory => ?_⟩
  · rw [hstart, lowest_flat h]
    omega
  · rw [hstart, size_part]
    omega
  · unfold install
    simp only [h]
    exact if_neg (Nat.ne_of_gt hshown)

theorem isRom_install_flat (h : cartridge.mapper = .normal) (memory : Memory) (address : UInt16) :
    (cartridge.install memory).isRom address =
      (decide (cartridge.lowest ≤ address.toNat) || memory.isRom address) := by
  have hlt : address.toNat < 0x10000 := address.toNat_lt
  by_cases hpos : 0 < cartridge.image.size
  · obtain ⟨start, data, hstart, hend, hinstall⟩ := exists_install_flat h hpos
    have hin : Memory.Within start data.size address ↔ cartridge.lowest ≤ address.toNat := by
      rw [Memory.Within, ← hstart]
      omega
    rw [hinstall, Memory.isRom_writeRom]
    by_cases hreached : cartridge.lowest ≤ address.toNat
    · rw [if_pos (hin.2 hreached), decide_eq_true hreached, Bool.true_or]
    · rw [if_neg fun h' => hreached (hin.1 h'), decide_eq_false hreached, Bool.false_or]
  · have hempty : cartridge.image.size = 0 := by omega
    have hreached : ¬ cartridge.lowest ≤ address.toNat := by
      rw [lowest_flat h, hempty]
      omega
    rw [install_normal h (by omega), if_pos hempty, decide_eq_false hreached, Bool.false_or]

theorem lowest_le_extents (cartridge : Cartridge) :
    ∀ extent ∈ cartridge.extents, cartridge.lowest ≤ extent.1.toNat := by
  unfold extents
  cases hmapper : cartridge.mapper with
  | normal =>
    rw [lowest_flat hmapper]
    dsimp only
    split
    · nofun
    · rw [List.forall_mem_singleton, UInt16.toNat_ofNat', Nat.mod_eq_of_lt (by omega)]
      omega
  | absolute =>
    rw [lowest_banked (by simp [hmapper])]
    simp only [List.forall_mem_cons]
    decide
  | supercart | supercartLarge | supercartRam | supercartRom | activision =>
    rw [lowest_banked (by simp [hmapper])]
    dsimp only
    split
    · nofun
    · simp only [List.forall_mem_cons]
      decide

/-- Mapping changes nothing below its lowest address. -/
theorem sameUnder_install (cartridge : Cartridge) (memory : Memory) :
    SameUnder cartridge.lowest (cartridge.install memory) memory :=
  cartridge.overlays_install.sameUnder cartridge.lowest_le_extents memory

theorem sameUnder_selectBank (cartridge : Cartridge) (memory : Memory) (bank : UInt8) :
    SameUnder cartridgeStart (cartridge.selectBank memory bank).2 memory := by
  unfold selectBank
  split
  · exact .refl _ memory
  · rename_i window hwindow
    dsimp only
    split
    · exact sameUnder_writeRom _ _ (Mapper.cartridgeStart_le_window hwindow)
    · exact .refl _ memory

end Cartridge

/-! ## Boot ROMs -/

/-- The lowest address that mapping the boot ROM reaches. -/
def BootRom.lowest (boot : BootRom) : Nat := 0x10000 - boot.image.size

theorem BootRom.sameUnder_install (boot : BootRom) (memory : Memory) :
    (boot.install memory).SameUnder boot.lowest memory := by
  refine Memory.sameUnder_writeRom memory _ (Nat.le_of_eq ?_)
  have hpositive := boot.positive
  rw [lowest, UInt16.toNat_ofNat']
  exact (Nat.mod_eq_of_lt (by omega)).symm

/-! ## The bus -/

namespace SystemBus

variable {σ : Type}

theorem sameUnder_selectBank (bus : SystemBus σ) (bank : UInt8) :
    (bus.selectBank bank).memory.SameUnder cartridgeStart bus.memory := by
  cases hc : bus.cartridge with
  | none =>
    rw [selectBank_of_none hc]
    exact .refl _ _
  | some cartridge =>
    rw [selectBank_eq hc]
    exact cartridge.sameUnder_selectBank bus.memory bank

theorem sameUnder_romWrite (bus : SystemBus σ) (address : UInt16) (value : UInt8) :
    (bus.romWrite address value).memory.SameUnder cartridgeStart bus.memory := by
  rw [romWrite_eq]
  split
  · exact bus.sameUnder_selectBank _
  · exact .refl _ _

end SystemBus
end Console7800
