import Console7800.Proofs.Cartridge.Layout
import Console7800.Proofs.SaveState.Reload
import Console7800.Proofs.SystemBus.Protection

/-!
# The mapping of a cartridge after a reload

Cartridge space is not saved: a reload builds it from a reset and the recorded bank. On a console
that never had a boot ROM the cartridge stays mapped whatever is done (`Laid`), so a reload can
differ from what was saved in the window only, and it does unless the window showed the recorded
bank (`mapping_reload`). A reset and a write that maps the cartridge again both put the window back
and leave the record alone.
-/

namespace Console7800

open Cartridge (bankSize)

variable {μ σ : Type}

/-! ## The cartridge stays mapped -/

/-- There is no boot ROM, the cartridge is mapped, and the bank that is recorded starts in the
image. -/
structure SystemBus.Laid (bus : SystemBus σ) : Prop where
  boot_eq : bus.boot = none
  mapped : ∀ cartridge ∈ bus.cartridge, cartridge.Mapped bus.memory
  selected : ∀ cartridge ∈ bus.cartridge, cartridge.bank = 0 ∨ cartridge.Selects cartridge.bank

namespace SystemBus

variable {bus after : SystemBus σ}

theorem Laid.undisturbed (h : bus.Laid) (hsame : Undisturbed bus after) : after.Laid := by
  obtain ⟨hboot, hcartridge, hmemory⟩ := hsame
  refine ⟨hboot.trans h.boot_eq, fun cartridge hmem => ?_, hcartridge ▸ h.selected⟩
  rw [hcartridge] at hmem
  exact (h.mapped cartridge hmem).of_sameProtected hmemory

theorem selected_selectBank {cartridge : Cartridge} (memory : Memory) (bank : UInt8)
    (h : cartridge.bank = 0 ∨ cartridge.Selects cartridge.bank) :
    (cartridge.selectBank memory bank).1.bank = 0 ∨
      (cartridge.selectBank memory bank).1.Selects (cartridge.selectBank memory bank).1.bank := by
  by_cases hselects : cartridge.Selects bank
  · rw [Cartridge.selectBank_of_selects memory hselects]
    exact .inr hselects
  · rw [Cartridge.selectBank_of_not_selects memory hselects]
    exact h

theorem Laid.selectBank (h : bus.Laid) (bank : UInt8) : (bus.selectBank bank).Laid := by
  cases hc : bus.cartridge with
  | none => rwa [selectBank_of_none hc]
  | some cartridge =>
    rw [selectBank_eq hc]
    refine ⟨h.boot_eq, fun other hmem => ?_, fun other hmem => ?_⟩
    · obtain rfl := Option.some.inj hmem
      exact (h.mapped cartridge hc).selectBank bank
    · obtain rfl := Option.some.inj hmem
      exact selected_selectBank _ _ (h.selected cartridge hc)

theorem Laid.installCartridge (h : bus.Laid) : bus.installCartridge.Laid := by
  unfold SystemBus.installCartridge
  split
  · refine ⟨h.boot_eq, fun cartridge hmem => ?_, h.selected⟩
    obtain rfl := Option.some.inj hmem
    exact (h.mapped _ rfl).install
  · exact h

theorem Change.laid (hstep : Change bus after) (h : bus.Laid) : after.Laid := by
  rcases hstep.protection_cases with hsame | ⟨cartridge, hc, bank, -, rfl⟩ | rfl | rfl
  · exact h.undisturbed hsame
  · exact h.selectBank bank
  · exact h.installCartridge
  · rwa [installBoot_of_none h.boot_eq]

theorem laid_powerOnBus [SoundChip σ] {bus : SystemBus σ} (hboot : bus.boot = none)
    (hselected : ∀ cartridge ∈ bus.cartridge,
      cartridge.bank = 0 ∨ cartridge.Selects cartridge.bank) : (Console.powerOnBus bus).Laid := by
  refine ⟨(Console.boot_powerOnBus bus).trans hboot, fun cartridge hmem => ?_, ?_⟩
  · rw [Console.cartridge_powerOnBus] at hmem
    rw [memory_powerOnBus_of_no_boot hboot hmem]
    exact cartridge.mapped_install_powerOn
  · rwa [Console.cartridge_powerOnBus]

/-- The blocks of a state reach the RAM of the console and of the cartridge. -/
theorem mapped_onMemory {data : Bytes} {parts : SaveState.Parts} {cartridge : Cartridge}
    {memory : Memory} (hparse : SaveState.parse data (some cartridge) = .ok parts)
    (h : cartridge.Mapped memory) : cartridge.Mapped (parts.onMemory memory) := by
  have hwhole := (SaveState.whole_of_parse hparse).2
  have hlow : cartridge.Mapped (memory.load 0 parts.ram) :=
    h.of_sameProtected (Memory.sameAbove_load _ (Nat.le_of_eq hwhole.ram)).protected
  unfold SaveState.Parts.onMemory
  split
  · rename_i ram hram
    obtain ⟨other, hmem, -, layout, -, rfl⟩ := SaveState.parse_eq_ok_iff.1 hparse
    obtain rfl := Option.some.inj hmem
    have hmapper : cartridge.mapper = .supercartRam := by
      simp only [SaveState.partsOf, Option.ite_none_right_eq_some, Bool.and_eq_true] at hram
      exact eq_of_beq hram.1.2
    exact hlow.loadRam hmapper (Nat.le_of_eq (hwhole.expansionRam ram hram))
  · exact hlow

theorem Laid.onBus {data : Bytes} {parts : SaveState.Parts} (h : bus.Laid)
    (hparse : SaveState.parse data bus.cartridge = .ok parts) : (parts.onBus bus).Laid := by
  have hselected := h.selectBank parts.bank
  refine ⟨h.boot_eq, fun other hmem => ?_, hselected.selected⟩
  have hother : SaveState.parse data (some other) = .ok parts := by
    rw [← show (bus.selectBank parts.bank).cartridge = some other from hmem,
      ← SaveState.parse_unbanked, unbanked_selectBank, SaveState.parse_unbanked, hparse]
  exact mapped_onMemory hother (hselected.mapped other hmem)

theorem Handling.laid [SoundChip σ] (hstep : Handling (· = none) bus after) (h : bus.Laid) :
    after.Laid := by
  cases hstep with
  | change hstep => exact hstep.laid h
  | setBoot hboot => exact ⟨hboot, h.mapped, h.selected⟩
  | release => exact ⟨h.boot_eq, fun _ hmem => (nomatch hmem), fun _ hmem => (nomatch hmem)⟩
  | mount hbank =>
    refine laid_powerOnBus h.boot_eq fun other hmem => .inl ?_
    obtain rfl := Option.some.inj hmem
    exact hbank
  | powerOn => exact laid_powerOnBus h.boot_eq h.selected
  | restore hparse => exact h.onBus hparse

/-! ## The window after a switch -/

/-- A bank has just been selected. -/
def Switching (bus : SystemBus σ) : Prop :=
  ∃ before : SystemBus σ, before.Laid ∧ ∃ cartridge ∈ before.cartridge, ∃ bank : UInt8,
    cartridge.Selects bank ∧ bus = before.selectBank bank

/-- A bank has been selected since the cartridge was mapped last. -/
abbrev Switched : SystemBus σ → Prop := Since Switching installCartridge

/-- The window shows the recorded bank. -/
def ShowsBank (bus : SystemBus σ) : Prop :=
  ∀ cartridge ∈ bus.cartridge, cartridge.ShowsBank bus.memory

theorem showsBank_selectBank {cartridge : Cartridge} (hc : cartridge ∈ bus.cartridge)
    {bank : UInt8} (h : cartridge.Selects bank) : (bus.selectBank bank).ShowsBank := by
  rw [selectBank_eq hc]
  intro other hmem
  obtain rfl := Option.some.inj hmem
  exact Cartridge.showsBank_selectBank bus.memory h

/-- Everything that happens on the bus but a mapping of the cartridge keeps the bank in the window,
or puts another one there and records it. -/
theorem Change.showsBank (hstep : Change bus after) (hother : after ≠ bus.installCartridge)
    (hlaid : bus.Laid) (h : bus.ShowsBank) : after.ShowsBank := by
  rcases hstep.protection_cases with hsame | ⟨cartridge, hc, bank, hselects, rfl⟩ | rfl | rfl
  · intro cartridge hmem
    rw [hsame.cartridge_eq] at hmem
    exact (h cartridge hmem).of_sameProtected (hlaid.mapped cartridge hmem) hsame.memory
  · exact showsBank_selectBank hc hselects
  · exact absurd rfl hother
  · rwa [installBoot_of_none hlaid.boot_eq]

theorem Switched.showsBank (h : bus.Switched) : bus.ShowsBank := by
  have hboth : bus.Laid ∧ bus.ShowsBank := by
    refine Since.keeps (P := fun bus => bus.Laid ∧ bus.ShowsBank) ?_ ?_ h
    · rintro _ ⟨before, hlaid, cartridge, hc, bank, hselects, rfl⟩
      exact ⟨hlaid.selectBank bank, showsBank_selectBank hc hselects⟩
    · rintro bus after hstep hother ⟨hlaid, hshown⟩
      exact ⟨hstep.laid hlaid, hstep.showsBank hother hlaid hshown⟩
  exact hboth.2

end SystemBus

namespace Console

variable [SoundChip σ] [DisplayChip μ] {boots : Option BootRom → Prop} {console : Console μ σ}
  {cartridge : Cartridge}

theorem Attainable.laid (h : Attainable (· = none) console) : console.board.bus.Laid :=
  h.keeps (fun _ _ => ⟨rfl, fun _ hmem => (nomatch hmem), fun _ hmem => (nomatch hmem)⟩)
    SystemBus.Handling.laid

theorem showsBank_reloaded (h : Attainable boots console)
    (hc : console.cartridge? = some cartridge) :
    cartridge.ShowsBank (console.reloaded cartridge).board.bus.memory := by
  by_cases hselects : cartridge.Selects cartridge.bank
  · have hshown := Cartridge.showsBank_selectBank (console.startBus true).memory hselects
    rw [Cartridge.selectBank_bank] at hshown
    rw [memory_reloaded h hc]
    refine hshown.of_window fun address hin => ?_
    obtain ⟨habove, hram⟩ := hin.apart
    rw [SaveState.read_onMemory_savedParts, if_neg]
    rintro (hlow | ⟨hexpansion, hram'⟩)
    · exact absurd hlow (Nat.not_lt.2 habove)
    · exact hram ⟨eq_of_beq hexpansion, hram'⟩
  · exact Cartridge.showsBank_of_not_selects hselects _

theorem mapped_reloaded (h : Attainable (· = none) console)
    (hc : console.cartridge? = some cartridge) :
    cartridge.Mapped (console.reloaded cartridge).board.bus.memory := by
  have hact := h.act (show Action.Allowed _ (.loadState console.saveState) from trivial)
  rw [perform, loadState_own h.coherent hc] at hact
  exact hact.laid.mapped cartridge (cartridge_reloaded h hc)

/-- A reload keeps what is protected, and every byte outside the window. -/
theorem outside_reloaded (h : Attainable (· = none) console)
    (hc : console.cartridge? = some cartridge) {address : UInt16}
    (habove : cartridgeStart ≤ address.toNat) :
    (console.reloaded cartridge).board.bus.memory.isRom address =
        console.board.bus.memory.isRom address ∧
      (¬ cartridge.InWindow address →
        (console.reloaded cartridge).board.bus.memory.read address =
          console.board.bus.memory.read address) := by
  have hbefore := h.laid.mapped cartridge hc
  have hafter := mapped_reloaded h hc
  refine ⟨(hafter.isRom address habove).trans (hbefore.isRom address habove).symm, fun hout => ?_⟩
  by_cases hram : cartridge.InRam address
  · have hexpansion : SaveState.hasExpansionRam cartridge := beq_iff_eq.2 hram.1
    rw [memory_reloaded h hc, SaveState.read_onMemory_savedParts,
      if_pos (.inr ⟨hexpansion, hram.2⟩)]
  · rw [hafter.read address habove hout hram, hbefore.read address habove hout hram]

/-- A reload puts the recorded bank into the window, so it must have been there. -/
theorem reloaded_sameAbove_iff (h : Attainable (· = none) console)
    (hc : console.cartridge? = some cartridge) (hbanks : bankSize ∣ cartridge.image.size) :
    (console.reloaded cartridge).board.bus.memory.SameAbove console.board.bus.memory ↔
      cartridge.ShowsBank console.board.bus.memory := by
  have hreloaded := showsBank_reloaded h hc
  constructor
  · exact fun hsaved => hreloaded.of_window fun address hin => (hsaved address hin.apart.1).1.symm
  · intro hshown address habove
    obtain ⟨hrom, hout⟩ := outside_reloaded h hc habove
    by_cases hin : cartridge.InWindow address
    · exact ⟨hreloaded.read_eq hshown hbanks (h.laid.selected cartridge hc) hin, hrom⟩
    · exact ⟨hout hin, hrom⟩

/-- What a reload makes of cartridge space on a console that never had a boot ROM: it is as it was
saved exactly if the window showed the recorded bank. That it does once a program has switched banks
after the last reset or mapping. Outside the window it is as it was saved in any case. -/
theorem mapping_reload (h : Attainable (· = none) console)
    (hc : console.cartridge? = some cartridge) (hbanks : bankSize ∣ cartridge.image.size) :
    ∃ after, console.loadState console.saveState = (.ok (), after) ∧
      (after.board.bus.memory.SameAbove console.board.bus.memory ↔
        cartridge.ShowsBank console.board.bus.memory) ∧
      (console.board.bus.Switched →
        after.board.bus.memory.SameAbove console.board.bus.memory) ∧
      ∀ address : UInt16, cartridgeStart ≤ address.toNat →
        after.board.bus.memory.isRom address = console.board.bus.memory.isRom address ∧
          (¬ cartridge.InWindow address →
            after.board.bus.memory.read address = console.board.bus.memory.read address) := by
  have hiff := reloaded_sameAbove_iff h hc hbanks
  exact ⟨_, loadState_own h.coherent hc, hiff,
    fun hswitched => hiff.2 (hswitched.showsBank cartridge hc),
    fun _ habove => outside_reloaded h hc habove⟩

/-! ## A console before the first switch -/

/-- Five banks with a one in every byte. -/
def banksFile : Bytes := .replicate (5 * bankSize) 1

theorem size_banksFile : banksFile.size = 5 * bankSize := Array.size_replicate

theorem extract_banksFile {start stop : Nat} (h : stop ≤ 5 * bankSize) :
    banksFile.extract start stop = .replicate (stop - start) 1 := by
  rw [banksFile, Array.extract_replicate, Nat.min_eq_left h]

def banksCartridge : Cartridge := { Cartridge.ofImage banksFile with mapper := .supercart }

theorem size_banksCartridge : banksCartridge.image.size = 5 * bankSize := size_banksFile

theorem load_banksFile : Cartridge.load banksFile = .ok banksCartridge :=
  load_replicate (by decide) (by decide)

/-- A console with banks, none of them switched to. -/
def banksConsole : Console IdleDisplay SilentSound :=
  (fresh {} {} {} {}).perform (.loadCartridge banksFile)

theorem bus_banksConsole :
    banksConsole.board.bus =
      powerOnBus { (fresh {} {} {} {} : Console IdleDisplay SilentSound).board.bus with
        cartridge := some banksCartridge, xm := none } := by
  rw [banksConsole, bus_perform_loadCartridge rfl rfl load_banksFile]

theorem cartridge?_banksConsole : banksConsole.cartridge? = some banksCartridge := by
  rw [cartridge?, bus_banksConsole, cartridge_powerOnBus]

/-- The window of this console is blank, and bank 0 is not. -/
theorem not_showsBank_banksConsole :
    ¬ banksCartridge.ShowsBank banksConsole.board.bus.memory := by
  have hblank : banksConsole.board.bus.memory.read 0x8000 = 0 := by
    rw [bus_banksConsole, SystemBus.memory_powerOnBus_of_no_boot rfl rfl,
      Cartridge.read_install_supercart rfl _ (by decide), Memory.read_powerOn]
  have hpart : banksCartridge.part (banksCartridge.bankOffset 0) bankSize =
      .replicate bankSize 1 := by
    rw [Cartridge.bankOffset_zero]
    exact extract_banksFile (by decide)
  intro hshown
  have hfirst := hshown 0x8000 rfl 0x8000
  have hbank : banksCartridge.bank = 0 := rfl
  rw [hbank, hpart, Array.size_replicate, hblank] at hfirst
  exact absurd (hfirst (by decide)) (by simp [bankSize])

theorem mapping_reload_banksConsole :
    ∃ after, banksConsole.loadState banksConsole.saveState = (.ok (), after) ∧
      ¬ after.board.bus.memory.SameAbove banksConsole.board.bus.memory := by
  have hattainable : Attainable (· = none) banksConsole := .act (.fresh _ _ _ _) trivial
  have hbanks : bankSize ∣ banksFile.size := size_banksFile ▸ Nat.dvd_mul_left ..
  obtain ⟨after, hload, hiff, -⟩ := mapping_reload hattainable cartridge?_banksConsole hbanks
  exact ⟨after, hload, fun hsame => not_showsBank_banksConsole (hiff.1 hsame)⟩

end Console

end Console7800
