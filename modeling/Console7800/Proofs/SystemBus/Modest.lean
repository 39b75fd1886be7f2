import Console7800.Proofs.Cartridge.Extent
import Console7800.Proofs.SystemBus.Decode

/-!
# Modest machines

Nothing that is mapped on a modest machine reaches below cartridge space. What stands there is
changed by what is stored there and by nothing else; and no store reaches the button latches and the
status of the display. So these bytes stay as they are whatever a program does (`Modest.read_run`).
-/

namespace Console7800

/-- A button latch, or the status of the display. Programs cannot write them. -/
def IsReadOnly (address : UInt16) : Prop :=
  firstInputLatch ≤ address ∧ address ≤ lastInputLatch ∨ address = displayStatus

theorem isReadOnly_displayStatus : IsReadOnly displayStatus := .inr rfl

theorem isReadOnly_gunLatch : IsReadOnly Lightgun.latch := .inl (by decide)

theorem IsReadOnly.toNat {address : UInt16} (h : IsReadOnly address) :
    0x08 ≤ address.toNat ∧ address.toNat ≤ 0x0D ∨ address.toNat = 0x28 := by
  rcases h with ⟨hfirst, hlast⟩ | rfl
  · exact .inl ⟨UInt16.le_iff_toNat_le.1 hfirst, UInt16.le_iff_toNat_le.1 hlast⟩
  · exact .inr rfl

theorem IsReadOnly.lt_cartridgeStart {address : UInt16} (h : IsReadOnly address) :
    address.toNat < cartridgeStart := by
  have := h.toNat
  rw [cartridgeStart]
  omega

theorem IsReadOnly.ne {address other : UInt16} (h : IsReadOnly address)
    (hother : ¬ IsReadOnly other) : other ≠ address := by
  rintro rfl
  exact hother h

/-- Read-only bytes are no shadows and have none, so a store elsewhere does not reach them. -/
theorem Memory.read_store_readOnly (memory : Memory) {address latch : UInt16} (value : UInt8)
    (hlatch : IsReadOnly latch) (haddress : ¬ IsReadOnly address) :
    (memory.store address value).read latch = memory.read latch := by
  have hnumber := hlatch.toNat
  rw [read_store, if_neg]
  rintro (rfl | hshadow)
  · exact haddress hlatch
  · rcases shadow?_eq_some_iff.1 hshadow with ⟨hshadowed, rfl⟩ | ⟨hshadowed, -⟩
    · have := hshadowed.toNat
      omega
    · have := hshadowed.toNat
      omega

namespace SystemBus

variable {σ : Type}

/-- A flat cartridge image and a boot ROM have at most 48 KB. -/
structure Modest (bus : SystemBus σ) : Prop where
  cartridge : ∀ cartridge ∈ bus.cartridge, cartridge.mapper = .normal →
    cartridge.image.size ≤ 0xC000
  boot : ∀ boot ∈ bus.boot, boot.image.size ≤ 0xC000

namespace Modest

variable {bus after : SystemBus σ}

theorem of_plugged (h : bus.Modest) (hboot : after.boot = bus.boot)
    (hcartridge : after.cartridge.map Cartridge.unbanked = bus.cartridge.map Cartridge.unbanked) :
    after.Modest := by
  refine ⟨fun cartridge hmem hflat => ?_, hboot ▸ h.boot⟩
  rw [Option.mem_def.1 hmem] at hcartridge
  obtain ⟨other, hother, hunbanked⟩ := Option.map_eq_some_iff.1 hcartridge.symm
  have hmapper := congrArg Cartridge.mapper hunbanked
  have himage := congrArg (·.image.size) hunbanked
  exact Nat.le_trans (Nat.le_of_eq himage.symm) (h.cartridge other hother (hmapper.trans hflat))

theorem evolves (h : bus.Modest) (hevolves : Evolves bus after) : after.Modest :=
  h.of_plugged hevolves.plugged.1 hevolves.plugged.2

theorem sameUnder_install (h : bus.Modest) {cartridge : Cartridge}
    (hmem : cartridge ∈ bus.cartridge) (memory : Memory) :
    (cartridge.install memory).SameUnder cartridgeStart memory :=
  (cartridge.sameUnder_install memory).mono
    (Cartridge.cartridgeStart_le_lowest_iff.2 (h.cartridge cartridge hmem))

theorem sameUnder_boot (h : bus.Modest) {boot : BootRom}
    (hmem : boot ∈ bus.boot) (memory : Memory) :
    (boot.install memory).SameUnder cartridgeStart memory := by
  have hsize := h.boot boot hmem
  exact (boot.sameUnder_install memory).mono (by rw [BootRom.lowest, cartridgeStart]; omega)

theorem sameUnder_installCartridge (h : bus.Modest) :
    bus.installCartridge.memory.SameUnder cartridgeStart bus.memory := by
  unfold installCartridge
  split
  · exact h.sameUnder_install rfl _
  · exact .refl _ _

theorem sameUnder_installBoot (h : bus.Modest) :
    bus.installBoot.memory.SameUnder cartridgeStart bus.memory := by
  unfold installBoot
  split
  · exact h.sameUnder_boot rfl _
  · exact .refl _ _

/-! ## Programs cannot write the read-only bytes -/

variable [SoundChip σ] {latch : UInt16}

theorem read_writeRegister (h : bus.Modest) (hlatch : IsReadOnly latch) (address : UInt16)
    (value : UInt8) :
    (bus.writeRegister address value).memory.read latch = bus.memory.read latch := by
  have hpoke {other : UInt16} (hother : ¬ IsReadOnly other) (byte : UInt8) :
      (bus.memory.poke other byte).read latch = bus.memory.read latch := by
    rw [Memory.read_poke, if_neg (hlatch.ne hother)]
  unfold writeRegister
  split
  · exact hpoke (by unfold IsReadOnly; decide) 1
  · split
    · split
      · exact (h.sameUnder_installCartridge latch hlatch.lt_cartridgeStart).1
      · split
        · exact (h.sameUnder_installBoot latch hlatch.lt_cartridgeStart).1
        · rfl
    · split
      · rfl
      · rename_i hreadOnly
        split
        · exact hpoke hreadOnly value
        · split
          · rfl
          · exact bus.memory.read_store_readOnly value hlatch hreadOnly

/-- What is written to protected memory only reaches a mapper, which leaves them alone. -/
theorem read_write (h : bus.Modest) (hlatch : IsReadOnly latch) (address : UInt16)
    (value : UInt8) : (bus.write address value).memory.read latch = bus.memory.read latch := by
  unfold write
  split
  · rfl
  · rfl
  · rfl
  · unfold writeConsole
    split
    · rfl
    · split
      · exact (bus.sameUnder_romWrite address value latch hlatch.lt_cartridgeStart).1
      · exact h.read_writeRegister hlatch address value

/-- Reads reach the sound chips and the timer, and no memory. -/
theorem memory_read (bus : SystemBus σ) (address : UInt16) :
    (bus.read address).2.memory = bus.memory := by
  unfold read
  split
  · rfl
  · rfl
  · unfold readConsole
    split
    · rfl
    · split <;> rfl

/-- A program that runs on a modest machine leaves the read-only bytes as they are. -/
theorem read_run (h : bus.Modest) (hlatch : IsReadOnly latch) {α : Type} (program : Access α) :
    (program.run bus).2.memory.read latch = bus.memory.read latch := by
  let Kept (first second : SystemBus σ) : Prop := first.Modest →
    second.Modest ∧ second.memory.read latch = first.memory.read latch
  have hkept : Kept bus (program.run bus).2 := by
    refine Access.run_related (fun _ h => ⟨h, rfl⟩) (fun h₁ h₂ hfirst => ?_)
      (fun bus address hbus => ?_) (fun bus address value hbus => ?_) program bus
    · obtain ⟨hsecond, hread⟩ := h₁ hfirst
      exact ⟨(h₂ hsecond).1, (h₂ hsecond).2.trans hread⟩
    · exact ⟨hbus.evolves (bus.evolves_read address),
        congrArg (·.read latch) (memory_read bus address)⟩
    · exact ⟨hbus.evolves (bus.evolves_write address value), hbus.read_write hlatch address value⟩
  exact (hkept h).2

end Modest
end SystemBus
end Console7800
