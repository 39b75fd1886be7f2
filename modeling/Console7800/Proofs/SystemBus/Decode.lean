import Console7800.SystemBus

/-!
# Addresses that always answer alike

`read_low`: below the registers that a cartridge or the expansion module can add, the console itself
answers. `read_gap`: one address among the pins and the timer reads as zero on every bus.
`read_high`: from $8000 up a read shows memory and does nothing else.
-/

namespace Console7800

namespace ExpansionModule

theorem decode?_below (xm : ExpansionModule) {address : UInt16} (h : address < 0x0450) :
    xm.decode? address = none := by
  have h1 : ¬ 0x0450 ≤ address := UInt16.not_le.2 h
  have h2 : ¬ 0x0470 ≤ address := fun h' => h1 (UInt16.le_trans (by decide) h')
  have h3 : ¬ 0x4000 ≤ address := fun h' => h1 (UInt16.le_trans (by decide) h')
  simp [decode?, h1, h2, h3]

theorem decode?_above (xm : ExpansionModule) {address : UInt16} (h : 0x8000 ≤ address) :
    xm.decode? address = none := by
  have h1 : ¬ address ≤ 0x046F := UInt16.not_le.2 (UInt16.lt_of_lt_of_le (by decide) h)
  have h2 : ¬ address ≤ 0x047F := UInt16.not_le.2 (UInt16.lt_of_lt_of_le (by decide) h)
  have h3 : ¬ address ≤ 0x7FFF := UInt16.not_le.2 (UInt16.lt_of_lt_of_le (by decide) h)
  simp [decode?, h1, h2, h3]

theorem decode?_ram (xm : ExpansionModule) {address : UInt16} (hlow : 0x4000 ≤ address)
    (hhigh : address < 0x8000) (hram : xm.ramEnabled) :
    ∃ offset, xm.decode? address = some (.ram offset) := by
  have h1 : ¬ address ≤ 0x046F := UInt16.not_le.2 (UInt16.lt_of_lt_of_le (by decide) hlow)
  have h2 : ¬ address ≤ 0x047F := UInt16.not_le.2 (UInt16.lt_of_lt_of_le (by decide) hlow)
  have h3 : address ≤ 0x7FFF := by
    rw [UInt16.lt_iff_toNat_lt] at hhigh
    rw [UInt16.le_iff_toNat_le]
    simp at hhigh ⊢
    omega
  simp [decode?, h1, h2, hlow, h3, hram]

theorem decode?_none (xm : ExpansionModule) {address : UInt16} (hlow : 0x4000 ≤ address)
    (h : ¬ (xm.ramEnabled ∧ address < 0x8000)) : xm.decode? address = none := by
  have h1 : ¬ address ≤ 0x046F := UInt16.not_le.2 (UInt16.lt_of_lt_of_le (by decide) hlow)
  have h2 : ¬ address ≤ 0x047F := UInt16.not_le.2 (UInt16.lt_of_lt_of_le (by decide) hlow)
  by_cases hhigh : 0x8000 ≤ address
  · exact xm.decode?_above hhigh
  · have hram : ¬ xm.ramEnabled = true := fun hram => h ⟨hram, UInt16.not_le.1 hhigh⟩
    simp [decode?, h1, h2, hram]

theorem decode?_eq_control_iff (xm : ExpansionModule) {address : UInt16} :
    xm.decode? address = some .control ↔ 0x0470 ≤ address ∧ address ≤ 0x047F := by
  unfold decode?
  constructor
  · intro h
    split at h
    · split at h <;> cases h
    · split at h
      · assumption
      · split at h
        · split at h <;> cases h
        · cases h
  · intro h
    have hapart : ¬ (0x0450 ≤ address ∧ address ≤ 0x046F) := fun h' =>
      absurd (UInt16.le_trans h.1 h'.2) (by decide)
    rw [if_neg hapart, if_pos h]

end ExpansionModule

namespace SystemBus

variable {σ : Type}

/-- An address among the pins and the timer that is wired to nothing. -/
def gap : UInt16 := 0x0288

theorem moduleTarget?_below (bus : SystemBus σ) {address : UInt16} (h : address < 0x0450) :
    bus.moduleTarget? address = none := by
  unfold moduleTarget?
  split
  · exact ExpansionModule.decode?_below _ h
  · rfl

theorem moduleTarget?_above (bus : SystemBus σ) {address : UInt16} (h : 0x8000 ≤ address) :
    bus.moduleTarget? address = none := by
  unfold moduleTarget?
  split
  · exact ExpansionModule.decode?_above _ h
  · rfl

theorem installBoot_of_none {bus : SystemBus σ} (h : bus.boot = none) : bus.installBoot = bus := by
  unfold installBoot
  split
  · cases h
  · rfl

theorem moduleTarget?_eq {bus : SystemBus σ} {xm : ExpansionModule} (h : bus.xm = some xm)
    (address : UInt16) : bus.moduleTarget? address = xm.decode? address := by
  rw [moduleTarget?, h]

theorem pokeyRegister?_eq {bus : SystemBus σ} {cartridge : Cartridge}
    (h : bus.cartridge = some cartridge) (address : UInt16) :
    bus.pokeyRegister? address =
      if cartridge.pokey ∧ address - cartridge.pokeyBase < 16 then
        some (address - cartridge.pokeyBase).toUInt8
      else none := by
  rw [pokeyRegister?, h]

/-- The sixteen registers of a cartridge's sound chip lie at $0450 or at $4000. -/
theorem pokeyRegister?_eq_none (bus : SystemBus σ) {address : UInt16}
    (h : 16 ≤ address - 0x0450 ∧ 16 ≤ address - 0x4000) : bus.pokeyRegister? address = none := by
  unfold pokeyRegister?
  split
  · rename_i cartridge _
    have hbase : ¬ address - cartridge.pokeyBase < 16 := by
      unfold Cartridge.pokeyBase
      split
      · exact UInt16.not_lt.2 h.1
      · exact UInt16.not_lt.2 h.2
    simp [hbase]
  · rfl

theorem pokeyRegister?_below (bus : SystemBus σ) {address : UInt16} (h : address < 0x0450) :
    bus.pokeyRegister? address = none := by
  refine bus.pokeyRegister?_eq_none ?_
  simp only [UInt16.le_iff_toNat_le, UInt16.lt_iff_toNat_lt, UInt16.toNat_sub] at *
  simp at *
  omega

theorem pokeyRegister?_above (bus : SystemBus σ) {address : UInt16} (h : 0x8000 ≤ address) :
    bus.pokeyRegister? address = none := by
  refine bus.pokeyRegister?_eq_none ?_
  have h1 := UInt16.le_iff_toNat_le.1 h
  have h2 := address.toNat_lt
  simp only [UInt16.le_iff_toNat_le, UInt16.toNat_sub]
  simp at *
  omega

theorem isRiot_above {address : UInt16} (h : 0x8000 ≤ address) : isRiot address = false := by
  have h1 : ¬ address ≤ riotEnd := UInt16.not_le.2 (UInt16.lt_of_lt_of_le (by decide) h)
  simp [isRiot, h1]

/-- Addresses in page zero that do not show what is written to them. -/
def IsLatch (address : UInt16) : Prop :=
  address = inputControl ∨ firstInputLatch ≤ address ∧ address ≤ lastInputLatch ∨
    address = waitSync ∨ address = displayStatus

theorem not_isLatch_above {address : UInt16} (h : displayStatus < address) : ¬ IsLatch address := by
  have hne (latch : UInt16) (hlatch : latch ≤ displayStatus) : ¬ address ≤ latch :=
    UInt16.not_le.2 (UInt16.lt_of_le_of_lt hlatch h)
  rintro (rfl | ⟨-, hlast⟩ | rfl | rfl)
  · exact hne inputControl (by decide) (UInt16.le_refl _)
  · exact hne lastInputLatch (by decide) hlast
  · exact hne waitSync (by decide) (UInt16.le_refl _)
  · exact hne displayStatus (by decide) (UInt16.le_refl _)

theorem not_isLatch_sound {address : UInt16} (hfirst : firstSoundRegister ≤ address)
    (hlast : address ≤ lastSoundRegister) : ¬ IsLatch address := by
  rintro (rfl | ⟨-, hbutton⟩ | rfl | rfl)
  · exact absurd hfirst (by decide)
  · exact absurd (UInt16.le_trans hfirst hbutton) (by decide)
  · exact absurd hlast (by decide)
  · exact absurd hlast (by decide)

variable [SoundChip σ]

theorem read_of_no_target (bus : SystemBus σ) {address : UInt16}
    (h : bus.moduleTarget? address = none) : bus.read address = bus.readConsole address := by
  unfold read
  rw [h]
  cases bus.xm <;> rfl

/-- Below the registers of the expansion module and of a cartridge's sound chip, the pins, the timer
and memory answer. -/
theorem read_low (bus : SystemBus σ) {address : UInt16} (h : address < 0x0450) :
    (bus.read address).1 =
      if isRiot address then bus.riot.peek address else bus.memory.read address := by
  rw [bus.read_of_no_target (bus.moduleTarget?_below h)]
  unfold readConsole
  rw [bus.pokeyRegister?_below h]
  cases isRiot address with
  | false => rfl
  | true =>
    simp only [if_true]
    unfold Riot.read
    dsimp only
    split <;> rfl

theorem read_gap (bus : SystemBus σ) : (bus.read gap).1 = 0 := bus.read_low (by decide)

/-- What nothing on a cartridge answers and nothing protects, the console takes. -/
theorem write_of_no_target (bus : SystemBus σ) {address : UInt16}
    (htarget : bus.moduleTarget? address = none) (hregister : bus.pokeyRegister? address = none)
    (hrom : bus.memory.isRom address = false) (value : UInt8) :
    bus.write address value = bus.writeRegister address value := by
  unfold write writeConsole
  simp only [htarget, hregister, hrom, Bool.false_eq_true, if_false]

/-- What nothing on a cartridge answers and something protects, the mapper takes. -/
theorem write_protected (bus : SystemBus σ) {address : UInt16}
    (htarget : bus.moduleTarget? address = none) (hregister : bus.pokeyRegister? address = none)
    (hrom : bus.memory.isRom address = true) (value : UInt8) :
    bus.write address value = bus.romWrite address value := by
  unfold write writeConsole
  simp only [htarget, hregister, hrom, if_true]

theorem write_high (bus : SystemBus σ) {address : UInt16} (h : 0x8000 ≤ address)
    (hrom : bus.memory.isRom address = true) (value : UInt8) :
    bus.write address value = bus.romWrite address value :=
  bus.write_protected (bus.moduleTarget?_above h) (bus.pokeyRegister?_above h) hrom value

/-- What the latches in page zero leave over goes to the sound chip, to the pins and the timer, or
to memory. -/
theorem writeRegister_of_not_latch (bus : SystemBus σ) {address : UInt16}
    (h : ¬ IsLatch address) (value : UInt8) :
    bus.writeRegister address value =
      if firstSoundRegister ≤ address ∧ address ≤ lastSoundRegister then
        (bus.mapTia (SoundChip.write · address.toUInt8 value)).mapMemory (·.poke address value)
      else if isRiot address then bus.mapRiot (·.write address value)
      else bus.mapMemory (·.store address value) := by
  unfold IsLatch at h
  simp only [not_or] at h
  obtain ⟨hcontrol, hbutton, hwait, hstatus⟩ := h
  unfold writeRegister
  rw [if_neg hwait, if_neg hcontrol, if_neg (not_or.2 ⟨hbutton, hstatus⟩)]

theorem writeRegister_above (bus : SystemBus σ) {address : UInt16} (h : displayStatus < address)
    (value : UInt8) :
    bus.writeRegister address value =
      if isRiot address then bus.mapRiot (·.write address value)
      else bus.mapMemory (·.store address value) := by
  have hsound : ¬ address ≤ lastSoundRegister :=
    UInt16.not_le.2 (UInt16.lt_trans (by decide) h)
  rw [bus.writeRegister_of_not_latch (not_isLatch_above h), if_neg fun hin => hsound hin.2]

theorem writeRegister_ram (bus : SystemBus σ) {address : UInt16} (hlow : 0x0480 ≤ address)
    (value : UInt8) : bus.writeRegister address value = bus.mapMemory (·.store address value) := by
  have hriot : ¬ address ≤ riotEnd := UInt16.not_le.2 (UInt16.lt_of_lt_of_le (by decide) hlow)
  rw [bus.writeRegister_above (UInt16.lt_of_lt_of_le (by decide) hlow), if_neg]
  simp [isRiot, hriot]

theorem write_low (bus : SystemBus σ) {address : UInt16} (h : address < 0x0450)
    (hrom : bus.memory.isRom address = false) (value : UInt8) :
    bus.write address value = bus.writeRegister address value :=
  bus.write_of_no_target (bus.moduleTarget?_below h) (bus.pokeyRegister?_below h) hrom value

theorem write_inputControl {bus : SystemBus σ} (hrom : bus.memory.isRom inputControl = false) :
    bus.write inputControl mapCartridge = bus.installCartridge :=
  bus.write_low (by decide) hrom mapCartridge

theorem write_riot (bus : SystemBus σ) {address : UInt16} (h : isRiot address = true)
    (hrom : bus.memory.isRom address = false) (value : UInt8) :
    bus.write address value = bus.mapRiot (·.write address value) := by
  have hrange : riotStart ≤ address ∧ address ≤ riotEnd := by simpa [isRiot] using h
  rw [bus.write_low (UInt16.lt_of_le_of_lt hrange.2 (by decide)) hrom,
    bus.writeRegister_above (UInt16.lt_of_lt_of_le (by decide) hrange.1), if_pos h]

theorem read_high (bus : SystemBus σ) {address : UInt16} (h : 0x8000 ≤ address) :
    bus.read address = (bus.memory.read address, bus) := by
  rw [bus.read_of_no_target (bus.moduleTarget?_above h)]
  unfold readConsole
  rw [bus.pokeyRegister?_above h]
  simp [isRiot_above h]

end SystemBus
end Console7800
