import Console7800.Proofs.Cartridge.Layout
import Console7800.Proofs.SaveState.Reload
import Console7800.Proofs.SystemBus.Protection

/-!
# A reload after the boot ROM has handed over

Once a program has mapped the cartridge, a flat cartridge stays on top until the boot ROM is mapped
again (`HandedOver.flatOnTop`). A state does not say which of the two is on top, and the reset that
loading starts with maps the boot ROM: after a reload it is on top, and the cartridge is not
(`handover_reload`).
-/

namespace Console7800

open Memory (Within)

/-- A flat image is shown and protected. -/
def Cartridge.OnTop (cartridge : Cartridge) (memory : Memory) : Prop :=
  ∀ address, Within cartridge.flatStart cartridge.image.size address →
    memory.read address =
        cartridge.image.getD (address.toNat - cartridge.flatStart.toNat) 0 ∧
      memory.isRom address = true

namespace SystemBus

variable {σ : Type} {bus after : SystemBus σ}

/-- The cartridge has been mapped, and the boot ROM has not been since. -/
abbrev HandedOver : SystemBus σ → Prop :=
  Since (fun bus => ∃ before, bus = installCartridge before) installBoot

/-- A flat cartridge that fits into cartridge space is on top. -/
def FlatOnTop (bus : SystemBus σ) : Prop :=
  ∀ cartridge ∈ bus.cartridge, cartridge.mapper = .normal → cartridge.image.size ≤ 0xC000 →
    cartridge.OnTop bus.memory

theorem plugged_installCartridge (bus : SystemBus σ) :
    bus.installCartridge.boot = bus.boot ∧ bus.installCartridge.cartridge = bus.cartridge := by
  unfold installCartridge
  split <;> exact ⟨rfl, rfl⟩

theorem flatOnTop_installCartridge (bus : SystemBus σ) : bus.installCartridge.FlatOnTop := by
  obtain ⟨memory, riot, tia, pokey, mounted, xm, boot, bootEnabled⟩ := bus
  intro cartridge hmem hmapper hsize address hin
  cases mounted with
  | none => cases hmem
  | some mounted =>
    obtain rfl : mounted = cartridge := Option.some.inj hmem
    have hfits := Nat.le_trans hsize (by decide : 0xC000 ≤ 0x10000)
    refine ⟨?_, ?_⟩
    · exact (Cartridge.read_install_normal hmapper hfits memory address).trans (if_pos hin)
    · exact (Cartridge.isRom_install_normal hmapper hfits memory address).trans (if_pos hin)

/-- A flat cartridge is protected and has no banks: only a mapping of the boot ROM goes over it. -/
theorem Change.flatOnTop (hstep : Change bus after) (hother : after ≠ bus.installBoot)
    (h : bus.FlatOnTop) : after.FlatOnTop := by
  rcases hstep.protection_cases with hsame | ⟨cartridge, hc, bank, hselects, rfl⟩ | rfl | rfl
  · intro cartridge hmem hmapper hsize address hin
    rw [hsame.cartridge_eq] at hmem
    obtain ⟨hread, hrom⟩ := h cartridge hmem hmapper hsize address hin
    obtain ⟨hrom', hread'⟩ := hsame.memory address (Cartridge.above_of_flat hsize hin)
    exact ⟨(hread' hrom).trans hread, hrom'.trans hrom⟩
  · rw [selectBank_eq hc, Cartridge.selectBank_of_selects _ hselects]
    intro other hmem hmapper
    obtain rfl := Option.some.inj hmem
    have hflat : cartridge.mapper = .normal := hmapper
    simp [Cartridge.Selects, hflat, Mapper.window?] at hselects
  · exact flatOnTop_installCartridge bus
  · exact absurd rfl hother

theorem HandedOver.flatOnTop (h : bus.HandedOver) : bus.FlatOnTop := by
  refine Since.keeps (P := FlatOnTop) ?_ Change.flatOnTop h
  rintro _ ⟨before, rfl⟩
  exact flatOnTop_installCartridge before

end SystemBus

namespace Console

variable {μ σ : Type} [SoundChip σ] [DisplayChip μ] {boots : Option BootRom → Prop}
  {console : Console μ σ} {cartridge : Cartridge} {boot : BootRom}

/-- A reload leaves cartridge space as the reset does, for a cartridge without banks. -/
theorem sameAbove_reloaded (h : Attainable boots console) (hc : console.cartridge? = some cartridge)
    (hmapper : cartridge.mapper = .normal) :
    (console.reloaded cartridge).board.bus.memory.SameAbove
      (powerOnBus console.board.bus).memory := by
  obtain ⟨memory, hstart, hsame⟩ := h.sameButRam_startBus true
  have hselect : ¬ cartridge.Selects cartridge.bank := by
    simp [Cartridge.Selects, hmapper, Mapper.window?]
  have hexpansion : ¬ SaveState.hasExpansionRam cartridge := by
    simp [SaveState.hasExpansionRam, hmapper]
  have hmemory : (console.startBus true).memory = memory := by rw [hstart]
  intro address habove
  rw [memory_reloaded h hc, Cartridge.selectBank_of_not_selects _ hselect, hmemory,
    SaveState.Parts.isRom_onMemory, SaveState.read_onMemory_savedParts,
    if_neg fun hin => hin.elim (Nat.not_lt.2 habove) fun hram => hexpansion hram.1]
  exact hsame address habove

/-- What a reload makes of cartridge space after the boot ROM has handed over to a flat cartridge:
before it the cartridge is on top, after it the boot ROM is, over blank memory. So cartridge space
is not as it was saved, unless the boot ROM looks like the cartridge. -/
theorem handover_reload (h : Attainable boots console) (hc : console.cartridge? = some cartridge)
    (hboot : console.board.bus.boot = some boot) (henabled : cartridge.disableBios = false)
    (hmapper : cartridge.mapper = .normal) (hsize : cartridge.image.size ≤ 0xC000)
    (hhanded : console.board.bus.HandedOver) :
    ∃ after, console.loadState console.saveState = (.ok (), after) ∧
      cartridge.OnTop console.board.bus.memory ∧
      after.board.bus.memory.SameAbove (boot.install .powerOn) ∧
      (¬ cartridge.OnTop (boot.install .powerOn) →
        ¬ after.board.bus.memory.SameAbove console.board.bus.memory) := by
  have hshown : cartridge.OnTop console.board.bus.memory :=
    hhanded.flatOnTop cartridge hc hmapper hsize
  have hreset : (powerOnBus console.board.bus).memory = boot.install .powerOn := by
    rw [SystemBus.memory_powerOnBus_eq, hboot, show console.board.bus.cartridge = _ from hc]
    simp [henabled]
  have hafter := sameAbove_reloaded h hc hmapper
  rw [hreset] at hafter
  refine ⟨_, loadState_own h.coherent hc, hshown, hafter, fun hlost hsaved => hlost ?_⟩
  intro address hin
  obtain ⟨hread, hrom⟩ :=
    (hafter.symm.trans hsaved) address (Cartridge.above_of_flat hsize hin)
  rw [hread, hrom]
  exact hshown address hin

/-! ## A console that has been handed over -/

/-- A boot ROM of one byte. -/
def smallBoot : BootRom := ⟨#[1], by decide, by decide⟩

/-- The blank cartridge on a console with a boot ROM. -/
def bootingConsole : Console IdleDisplay SilentSound :=
  ((fresh {} {} {} {}).perform (.setBoot smallBoot)).perform (.loadCartridge blankFile)

/-- The same after the program of the boot ROM has mapped the cartridge. -/
def handedConsole : Console IdleDisplay SilentSound :=
  bootingConsole.perform (.write inputControl SystemBus.mapCartridge)

theorem attainable_handedConsole : Attainable (fun _ => True) handedConsole := by
  refine .act (.act (.act (.fresh _ _ _ _) ?_) ?_) ?_ <;> trivial

theorem bus_bootingConsole :
    bootingConsole.board.bus =
      powerOnBus { ((fresh {} {} {} {} : Console IdleDisplay SilentSound).perform
          (.setBoot smallBoot)).board.bus with
        cartridge := some { Cartridge.ofImage blankFile with mapper := .normal }, xm := none } := by
  rw [bootingConsole, bus_perform_loadCartridge rfl rfl load_blankFile]

theorem memory_bootingConsole :
    bootingConsole.board.bus.memory = smallBoot.install .powerOn := by
  rw [bus_bootingConsole, SystemBus.memory_powerOnBus_eq]
  rfl

theorem bus_handedConsole :
    handedConsole.board.bus = bootingConsole.board.bus.installCartridge := by
  have hrom : bootingConsole.board.bus.memory.isRom inputControl = false := by
    rw [memory_bootingConsole, BootRom.install, Memory.isRom_writeRom,
      if_neg fun hin => absurd hin.1 (by decide), Memory.isRom_powerOn]
    rfl
  rw [handedConsole, bus_perform_write, SystemBus.write_inputControl hrom]

theorem cartridge?_handedConsole :
    handedConsole.cartridge? = some { Cartridge.ofImage blankFile with mapper := .normal } := by
  rw [cartridge?, bus_handedConsole, (SystemBus.plugged_installCartridge _).2, bus_bootingConsole,
    cartridge_powerOnBus]

/-- The boot ROM ends with a one, and the blank cartridge with a zero. -/
theorem not_onTop_smallBoot :
    ¬ Cartridge.OnTop { Cartridge.ofImage blankFile with mapper := .normal }
      (smallBoot.install .powerOn) := by
  have hboot : (smallBoot.install .powerOn).read 0xFFFF = 1 := by
    rw [BootRom.install, Memory.read_writeRom, if_pos (by decide)]
    rfl
  have hblank (i : Nat) : blankFile.getD i 0 = 0 := by
    rw [blankFile, Array.getD_eq_getD_getElem?, Array.getElem?_replicate]
    split <;> rfl
  intro h
  have hlast := (h 0xFFFF (Cartridge.last_flat (size_blankFile ▸ by decide)
    (size_blankFile ▸ by decide))).1
  simp only [hboot, Cartridge.ofImage, hblank] at hlast
  exact absurd hlast (by decide)

theorem handover_reload_handedConsole :
    handedConsole.board.bus.HandedOver ∧
      ∃ after, handedConsole.loadState handedConsole.saveState = (.ok (), after) ∧
        ¬ after.board.bus.memory.SameAbove handedConsole.board.bus.memory := by
  have hhanded : handedConsole.board.bus.HandedOver := .start ⟨_, bus_handedConsole⟩
  have hboot : handedConsole.board.bus.boot = some smallBoot := by
    rw [bus_handedConsole, (SystemBus.plugged_installCartridge _).1, bus_bootingConsole,
      boot_powerOnBus]
    rfl
  have hsize : blankFile.size ≤ 0xC000 := by
    rw [size_blankFile]
    decide
  obtain ⟨after, hload, -, -, hlost⟩ := handover_reload attainable_handedConsole
    cartridge?_handedConsole hboot rfl rfl hsize hhanded
  exact ⟨hhanded, after, hload, hlost not_onTop_smallBoot⟩

end Console

end Console7800
