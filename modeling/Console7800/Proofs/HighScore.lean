import Console7800.HighScore
import Console7800.Proofs.Access
import Console7800.Proofs.Memory
import Console7800.Proofs.SystemBus.Decode

/-!
# What mounting the high-score cartridge touches

It is written by ordinary writes, and all of them land in console RAM: none reaches a register, a
sound chip, the expansion module or the mapper (`run_mount`, `sameAbove_onMemory`).
-/

namespace Console7800

theorem ExpansionModule.decode?_between (xm : ExpansionModule) {address : UInt16}
    (hlow : 0x0480 ≤ address) (hhigh : address < 0x4000) : xm.decode? address = none := by
  have h1 : ¬ address ≤ 0x046F := UInt16.not_le.2 (UInt16.lt_of_lt_of_le (by decide) hlow)
  have h2 : ¬ address ≤ 0x047F := UInt16.not_le.2 (UInt16.lt_of_lt_of_le (by decide) hlow)
  have h3 : ¬ 0x4000 ≤ address := UInt16.not_le.2 hhigh
  simp [decode?, h1, h2, h3]

/-- No mapper listens below $8000. -/
theorem Cartridge.selectedBank?_below (cartridge : Cartridge) {address : UInt16}
    (h : address < 0x8000) (value : UInt8) : cartridge.selectedBank? address value = none := by
  have h1 : ¬ 0x8000 ≤ address := UInt16.not_le.2 h
  have h2 : ¬ 0xFF80 ≤ address := fun h' => h1 (UInt16.le_trans (by decide) h')
  have h3 : address ≠ 0x8000 := by
    rintro rfl
    exact absurd h (by decide)
  unfold selectedBank?
  split <;> simp [h1, h2, h3]

namespace SystemBus

variable {σ : Type}

/-- The same bus, but for what is in console RAM. -/
def SameButRam (bus after : SystemBus σ) : Prop :=
  ∃ memory : Memory, after = { bus with memory } ∧ memory.SameAbove bus.memory

theorem romWrite_below (bus : SystemBus σ) {address : UInt16} (h : address < 0x8000)
    (value : UInt8) : bus.romWrite address value = bus := by
  unfold romWrite
  split
  · simp only [Cartridge.romWrite, Cartridge.selectedBank?_below _ h]
  · rfl

variable [SoundChip σ]

/-- Between the registers and cartridge space there is RAM and nothing else. -/
theorem write_ram (bus : SystemBus σ) {address : UInt16} (hlow : 0x0480 ≤ address)
    (hhigh : address < 0x4000) (value : UInt8) :
    bus.write address value =
      if bus.memory.isRom address then bus else bus.mapMemory (·.store address value) := by
  have htarget : bus.moduleTarget? address = none := by
    unfold moduleTarget?
    split
    · exact ExpansionModule.decode?_between _ hlow hhigh
    · rfl
  have hregister : bus.pokeyRegister? address = none := by
    refine bus.pokeyRegister?_eq_none ?_
    simp only [UInt16.le_iff_toNat_le, UInt16.lt_iff_toNat_lt, UInt16.toNat_sub] at *
    simp at *
    omega
  cases hrom : bus.memory.isRom address with
  | true =>
    rw [bus.write_protected htarget hregister hrom, if_pos rfl,
      romWrite_below bus (UInt16.lt_trans hhigh (by decide))]
  | false =>
    rw [bus.write_of_no_target htarget hregister hrom, writeRegister_ram bus hlow]
    rfl

end SystemBus

namespace HighScoreCart

variable {σ : Type} [SoundChip σ]

def romSize : Nat := 4096

/-- The cartridge is no larger than its places in memory. -/
structure Fits (cart : HighScoreCart) : Prop where
  rom : cart.rom.size ≤ romSize
  sram : ∀ sram ∈ cart.sram, sram.size ≤ sramSize

/-- Store bytes one after the other where nothing is protected. -/
def storeAll (address : UInt16) : List UInt8 → Memory → Memory
  | [], memory => memory
  | byte :: rest, memory =>
    storeAll (address + 1) rest
      (if memory.isRom address then memory else memory.store address byte)

/-- What mounting makes of memory. -/
def onMemory (cart : HighScoreCart) (memory : Memory) : Memory :=
  let below := match cart.sram with
    | some sram => storeAll sramStart sram.toList memory
    | none => memory
  storeAll romStart cart.rom.toList below

theorem below_of_cons {address : UInt16} {count : Nat}
    (h : address.toNat + (count + 1) ≤ cartridgeStart) :
    address < 0x4000 ∧ (address + 1).toNat = address.toNat + 1 := by
  simp only [cartridgeStart] at h
  constructor
  · rw [UInt16.lt_iff_toNat_lt]
    simp
    omega
  · simp only [UInt16.toNat_add]
    simp
    omega

theorem run_writeAll (bytes : List UInt8) {address : UInt16} (hlow : 0x0480 ≤ address)
    (hend : address.toNat + bytes.length ≤ cartridgeStart) (bus : SystemBus σ) :
    ((writeAll address bytes).run bus).2 = bus.mapMemory (storeAll address bytes) := by
  induction bytes generalizing address bus with
  | nil => rfl
  | cons byte rest ih =>
    obtain ⟨hhigh, hnext⟩ := below_of_cons hend
    rw [List.length_cons] at hend
    have hlow' : 0x0480 ≤ address + 1 := by
      rw [UInt16.le_iff_toNat_le] at hlow ⊢
      omega
    change ((writeAll (address + 1) rest).run (bus.write address byte)).2 = _
    rw [ih hlow' (by omega), bus.write_ram hlow hhigh]
    cases hrom : bus.memory.isRom address with
    | true => simp [storeAll, SystemBus.mapMemory, hrom]
    | false => simp [storeAll, SystemBus.mapMemory, hrom]

theorem sameAbove_storeAll (bytes : List UInt8) {address : UInt16}
    (hend : address.toNat + bytes.length ≤ cartridgeStart) (memory : Memory) :
    (storeAll address bytes memory).SameAbove memory := by
  induction bytes generalizing address memory with
  | nil => exact .refl memory
  | cons byte rest ih =>
    obtain ⟨hhigh, hnext⟩ := below_of_cons hend
    rw [List.length_cons] at hend
    refine (ih (by omega) _).trans ?_
    split
    · exact .refl memory
    · exact Memory.sameAbove_store _ _ (UInt16.lt_iff_toNat_lt.1 hhigh)

theorem isRom_storeAll (bytes : List UInt8) (address : UInt16) (memory : Memory) (other : UInt16) :
    (storeAll address bytes memory).isRom other = memory.isRom other := by
  induction bytes generalizing address memory with
  | nil => rfl
  | cons byte rest ih =>
    rw [storeAll, ih]
    split
    · rfl
    · exact Memory.isRom_store ..

theorem isRom_onMemory (cart : HighScoreCart) (memory : Memory) (address : UInt16) :
    (cart.onMemory memory).isRom address = memory.isRom address := by
  unfold onMemory
  rw [isRom_storeAll]
  split
  · exact isRom_storeAll ..
  · rfl

namespace Fits

variable {cart : HighScoreCart}

theorem rom_below (h : cart.Fits) :
    romStart.toNat + cart.rom.toList.length ≤ cartridgeStart := by
  have : cart.rom.size ≤ 4096 := h.rom
  simp [romStart, cartridgeStart]
  omega

theorem sram_below (h : cart.Fits) {sram : Bytes} (hsram : cart.sram = some sram) :
    sramStart.toNat + sram.toList.length ≤ cartridgeStart := by
  have : sram.size ≤ 2048 := h.sram sram hsram
  simp [sramStart, cartridgeStart]
  omega

end Fits

/-- Mounting writes memory and nothing else. -/
theorem run_mount {cart : HighScoreCart} (h : cart.Fits) (bus : SystemBus σ) :
    (cart.mount.run bus).2 = bus.mapMemory cart.onMemory := by
  unfold mount onMemory
  cases hsram : cart.sram with
  | none => exact run_writeAll _ (by decide) h.rom_below bus
  | some sram =>
    change (((writeAll sramStart sram.toList).bind fun _ =>
      writeAll romStart cart.rom.toList).run bus).2 = _
    rw [Access.run_bind, run_writeAll _ (by decide) (h.sram_below hsram),
      run_writeAll _ (by decide) h.rom_below]
    rfl

theorem sameAbove_onMemory {cart : HighScoreCart} (h : cart.Fits) (memory : Memory) :
    (cart.onMemory memory).SameAbove memory := by
  unfold onMemory
  refine (sameAbove_storeAll _ h.rom_below _).trans ?_
  cases hsram : cart.sram with
  | none => exact .refl memory
  | some sram => exact sameAbove_storeAll _ (h.sram_below hsram) memory

end HighScoreCart

end Console7800
