import Console7800.Proofs.SystemBus.Decode

/-!
# A peek shows what a read gives

A peek and a read each find out on their own who answers an address. Where it is no sound chip
(`SystemBus.SoundAt`), a read gives what a peek shows, and it changes nothing but the timer's flag,
which a read of the timer acknowledges (`SystemBus.read_eq_peek`). That holds whatever is mounted,
mapped and enabled.
-/

namespace Console7800

/-! ## Who answers -/

/-- The expansion module's sound chip is on, and the address is one of its registers. -/
def ExpansionModule.SoundAt (xm : ExpansionModule) (address : UInt16) : Prop :=
  xm.pokeyEnabled = true ∧ 0x0450 ≤ address ∧ address ≤ 0x046F

/-- The expansion module's RAM is on, and the address is in its window. -/
def ExpansionModule.RamAt (xm : ExpansionModule) (address : UInt16) : Prop :=
  xm.ramEnabled = true ∧ 0x4000 ≤ address ∧ address ≤ 0x7FFF

/-- The cartridge has a sound chip, and the address is one of its registers. -/
def Cartridge.SoundAt (cartridge : Cartridge) (address : UInt16) : Prop :=
  cartridge.pokey = true ∧ cartridge.pokeyBase ≤ address ∧ address < cartridge.pokeyBase + 16

namespace SystemBus

variable {σ : Type}

/-- A sound chip answers a read: that of the expansion module or, where the module does not answer,
that of the cartridge. -/
def SoundAt (bus : SystemBus σ) (address : UInt16) : Prop :=
  (∃ xm ∈ bus.xm, xm.SoundAt address) ∨
    (¬ ∃ xm ∈ bus.xm, xm.SoundAt address ∨ xm.RamAt address) ∧
      ∃ cartridge ∈ bus.cartridge, cartridge.SoundAt address

end SystemBus

namespace ExpansionModule

variable {address : UInt16}

theorem soundAt_of_decode? (xm : ExpansionModule) {register : UInt8}
    (h : xm.decode? address = some (.pokey register)) : xm.SoundAt address := by
  unfold decode? at h
  split at h
  · rename_i hrange
    split at h
    · rename_i hon
      exact ⟨hon, hrange⟩
    · cases h
  · split at h
    · cases h
    · split at h
      · split at h <;> cases h
      · cases h

theorem RamAt.decode? {xm : ExpansionModule} (h : xm.RamAt address) :
    ∃ offset, xm.decode? address = some (.ram offset) :=
  xm.decode?_ram h.2.1 (UInt16.lt_of_le_of_lt h.2.2 (by decide)) h.1

end ExpansionModule

theorem Cartridge.soundAt_iff {cartridge : Cartridge} {address : UInt16} :
    cartridge.SoundAt address ↔
      cartridge.pokey = true ∧ address - cartridge.pokeyBase < 16 := by
  have hwindow : cartridge.pokeyBase ≤ address ∧ address < cartridge.pokeyBase + 16 ↔
      address - cartridge.pokeyBase < 16 := by
    have haddress := address.toNat_lt
    have hbase : cartridge.pokeyBase.toNat < 0xFFF0 := by
      unfold pokeyBase
      split <;> decide
    simp only [UInt16.le_iff_toNat_le, UInt16.lt_iff_toNat_lt, UInt16.toNat_add, UInt16.toNat_sub,
      UInt16.reduceToNat]
    omega
  rw [SoundAt, hwindow]

/-- Acknowledge the timer, as a read of one of its registers does. -/
def Riot.acknowledged (riot : Riot) : Riot :=
  { riot with timer := { riot.timer with raised := false } }

theorem Riot.flagByte_acknowledged (riot : Riot) :
    riot.acknowledged.timer.flagByte = riot.timer.flagByte &&& 0x7F := by
  change (0 : UInt8) = _
  unfold Timer.flagByte
  split <;> rfl

/-- A read of a register gives what a peek shows, and acknowledges the timer if bit 2 is set. -/
theorem Riot.read_eq (riot : Riot) (address : UInt16) :
    riot.read address =
      (riot.peek address, if address &&& 0x04 = 0 then riot else riot.acknowledged) := by
  unfold read
  dsimp only
  split <;> rfl

namespace SystemBus

variable {σ : Type} {bus : SystemBus σ} {address : UInt16}

theorem isRiot_iff : isRiot address = true ↔ 0x0280 ≤ address ∧ address ≤ 0x029F := by
  rw [isRiot, Bool.and_eq_true, decide_eq_true_iff, decide_eq_true_iff]
  rfl

theorem moduleTarget?_ne_pokey (h : ¬ bus.SoundAt address) (register : UInt8) :
    bus.moduleTarget? address ≠ some (.pokey register) := by
  intro htarget
  refine h (.inl ?_)
  unfold moduleTarget? at htarget
  split at htarget
  · rename_i xm hxm
    exact ⟨xm, hxm, xm.soundAt_of_decode? htarget⟩
  · cases htarget

theorem pokeyRegister?_of_not_soundAt (h : ¬ bus.SoundAt address)
    (hram : ∀ offset, bus.moduleTarget? address ≠ some (.ram offset)) :
    bus.pokeyRegister? address = none := by
  have hmodule : ¬ ∃ xm ∈ bus.xm, xm.SoundAt address ∨ xm.RamAt address := by
    rintro ⟨xm, hxm, hsound | hanswers⟩
    · exact h (.inl ⟨xm, hxm, hsound⟩)
    · obtain ⟨offset, htarget⟩ := hanswers.decode?
      exact hram offset ((moduleTarget?_eq hxm address).trans htarget)
  unfold pokeyRegister?
  split
  · rename_i cartridge hc
    refine if_neg fun hin => h (.inr ⟨hmodule, cartridge, hc, ?_⟩)
    exact Cartridge.soundAt_iff.2 hin
  · rfl

theorem peek_of_not_ram (h : ∀ offset, bus.moduleTarget? address ≠ some (.ram offset)) :
    bus.peek address =
      if isRiot address then bus.riot.peek address else bus.memory.read address := by
  unfold peek
  split
  · rename_i offset _ htarget
    exact absurd htarget (h offset)
  · rfl

variable [SoundChip σ]

theorem read_of_no_sound (hpokey : ∀ register, bus.moduleTarget? address ≠ some (.pokey register))
    (hram : ∀ offset, bus.moduleTarget? address ≠ some (.ram offset))
    (hregister : bus.pokeyRegister? address = none) :
    bus.read address =
      if isRiot address then
        ((bus.riot.read address).1, { bus with riot := (bus.riot.read address).2 })
      else (bus.memory.read address, bus) := by
  unfold read
  split
  · rename_i register _ htarget
    exact absurd htarget (hpokey register)
  · rename_i offset _ htarget
    exact absurd htarget (hram offset)
  · unfold readConsole
    rw [hregister]

/-- Where no sound chip answers, a read gives what a peek shows. It changes nothing of the bus, but
among the pins and the timer a read with address bit 2 set acknowledges the timer: it clears bit 7
of the byte that shows the flag. -/
theorem read_eq_peek (bus : SystemBus σ) {address : UInt16} (h : ¬ bus.SoundAt address) :
    (bus.read address).1 = bus.peek address ∧
      (bus.read address).2 =
        (if 0x0280 ≤ address ∧ address ≤ 0x029F ∧ address &&& 0x04 ≠ 0 then
          { bus with riot := bus.riot.acknowledged }
        else bus) ∧
      bus.riot.acknowledged.timer.flagByte = bus.riot.timer.flagByte &&& 0x7F := by
  refine and_assoc.1 ⟨?_, bus.riot.flagByte_acknowledged⟩
  by_cases hram : ∃ offset, bus.moduleTarget? address = some (.ram offset)
  · obtain ⟨offset, htarget⟩ := hram
    have hapart : ¬ address ≤ 0x029F := fun hle => by
      rw [bus.moduleTarget?_below (UInt16.lt_of_le_of_lt hle (by decide))] at htarget
      cases htarget
    rw [if_neg fun hin => hapart hin.2.1]
    cases hxm : bus.xm with
    | none => simp [moduleTarget?, hxm] at htarget
    | some xm =>
      rw [read, peek, htarget, hxm]
      exact ⟨rfl, rfl⟩
  · have hnot : ∀ offset, bus.moduleTarget? address ≠ some (.ram offset) := not_exists.1 hram
    rw [read_of_no_sound (moduleTarget?_ne_pokey h) hnot (pokeyRegister?_of_not_soundAt h hnot),
      peek_of_not_ram hnot]
    by_cases hriot : isRiot address = true
    · obtain ⟨hlow, hhigh⟩ := isRiot_iff.1 hriot
      rw [if_pos hriot, if_pos hriot, Riot.read_eq]
      by_cases htimer : address &&& 0x04 = 0
      · simp [htimer]
      · simp [htimer, hlow, hhigh]
    · rw [if_neg hriot, if_neg hriot, if_neg fun hin => hriot (isRiot_iff.2 ⟨hin.1, hin.2.1⟩)]
      exact ⟨rfl, rfl⟩

/-! ## A window under another one -/

/-- A new expansion module with its RAM on. -/
def enabledModule : ExpansionModule := { ExpansionModule.powerOn with control := 0x08 }

/-- The expansion module's RAM lies over the registers of a sound chip on the cartridge, and the
timer has reached zero. -/
def layeredBus : SystemBus SilentSound where
  tia := {}
  pokey := {}
  riot := { timer := { raised := true } }
  cartridge := some { Cartridge.ofImage #[] with pokey := true }
  xm := some enabledModule

theorem not_soundAt_layeredBus {address : UInt16}
    (h : address < 0x4000 ∨ 0x4000 ≤ address ∧ address ≤ 0x7FFF) :
    ¬ layeredBus.SoundAt address := by
  rintro (⟨xm, hxm, hon, -⟩ | ⟨hmodule, cartridge, hc, -, hlow, -⟩)
  · obtain rfl := Option.some.inj hxm
    exact absurd hon (by decide)
  · obtain rfl := Option.some.inj hc
    rcases h with hbelow | hwindow
    · exact UInt16.not_le.2 hbelow hlow
    · exact hmodule ⟨_, rfl, .inr ⟨by decide, hwindow⟩⟩

/-- A register of the covered sound chip reads as RAM, and a read of the flag acknowledges it. -/
theorem read_eq_peek_layeredBus :
    ¬ layeredBus.SoundAt 0x4005 ∧ layeredBus.read 0x4005 = (0, layeredBus) ∧
      ¬ layeredBus.SoundAt 0x0285 ∧ (layeredBus.read 0x0285).1 = 0x80 ∧
      (layeredBus.read 0x0285).2.riot.timer.flagByte = 0 := by
  have hram : ¬ layeredBus.SoundAt 0x4005 := not_soundAt_layeredBus (.inr (by decide))
  have hflag : ¬ layeredBus.SoundAt 0x0285 := not_soundAt_layeredBus (.inl (by decide))
  obtain ⟨hbyte, hafter, -⟩ := layeredBus.read_eq_peek hram
  obtain ⟨hraised, hread, hcleared⟩ := layeredBus.read_eq_peek hflag
  rw [if_neg (by decide)] at hafter
  rw [if_pos (by decide)] at hread
  refine ⟨hram, Prod.ext (hbyte.trans ?_) hafter, hflag, hraised.trans (by decide), ?_⟩
  · have hanswers : enabledModule.RamAt 0x4005 := ⟨by decide, by decide, by decide⟩
    obtain ⟨offset, htarget⟩ := hanswers.decode?
    have hpeek : layeredBus.peek 0x4005 = enabledModule.readRam offset := by
      have hxm : layeredBus.xm = some enabledModule := rfl
      rw [peek, moduleTarget?_eq hxm, htarget, hxm]
    rw [hpeek]
    simp [enabledModule, ExpansionModule.readRam, ExpansionModule.powerOn]
  · rw [hread]
    exact hcleared.trans (by decide)

end SystemBus
end Console7800
