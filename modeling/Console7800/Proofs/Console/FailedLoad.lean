import Console7800.Proofs.Console.LowMemory
import Console7800.Proofs.Console.Timing

/-!
# What a failed load leaves

A load takes the old cartridge out and then reads the file; if that is no cartridge, the load ends
there, before the reset. The sockets are empty (`SystemBus.Vacant`), so nothing can be mapped any
more, but what the old cartridge had mapped is still in memory, its timing still applies, and both
stay until the next reset (`failedLoad`).
-/

namespace Console7800

namespace SystemBus

variable {σ : Type} {bus after : SystemBus σ}

/-- Nothing is plugged in. -/
structure Vacant (bus : SystemBus σ) : Prop where
  boot : bus.boot = none
  cartridge : bus.cartridge = none
  xm : bus.xm = none

theorem isRiot_cartridge {address : UInt16} (h : cartridgeStart ≤ address.toNat) :
    isRiot address = false := by
  have hend : ¬ address ≤ riotEnd := fun hle =>
    absurd (Nat.le_trans h (UInt16.le_iff_toNat_le.1 hle)) (by decide)
  simp [isRiot, hend]

theorem Vacant.moduleTarget? (h : bus.Vacant) (address : UInt16) :
    bus.moduleTarget? address = none := by
  rw [SystemBus.moduleTarget?, h.xm]

theorem Vacant.peek (h : bus.Vacant) {address : UInt16} (habove : cartridgeStart ≤ address.toNat) :
    bus.peek address = bus.memory.read address := by
  unfold SystemBus.peek
  rw [h.moduleTarget?, isRiot_cartridge habove]
  cases bus.xm <;> rfl

theorem Vacant.read [SoundChip σ] (h : bus.Vacant) {address : UInt16}
    (habove : cartridgeStart ≤ address.toNat) :
    bus.read address = (bus.memory.read address, bus) := by
  rw [read_of_no_target bus (h.moduleTarget? address), readConsole, pokeyRegister?, h.cartridge,
    isRiot_cartridge habove]
  rfl

theorem Change.vacant (hstep : Change bus after) (h : bus.Vacant) :
    after.Vacant ∧ after.memory.SameProtected bus.memory := by
  have hxm : after.xm = none := by
    cases hstep with
    | tia | pokey | latch | store | riot => exact h.xm
    | moduleRam | moduleControl => exact Option.map_eq_none_iff.2 h.xm
    | romWrite value =>
      rw [romWrite_eq, h.cartridge]
      exact h.xm
    | installCartridge =>
      unfold SystemBus.installCartridge
      split <;> exact h.xm
    | installBoot =>
      rw [installBoot_of_none h.boot]
      exact h.xm
  rcases hstep.protection_cases with hsame | ⟨cartridge, hc, -⟩ | rfl | rfl
  · exact ⟨⟨hsame.boot_eq.trans h.boot, hsame.cartridge_eq.trans h.cartridge, hxm⟩, hsame.memory⟩
  · rw [h.cartridge] at hc
    cases hc
  · have hsame : bus.installCartridge = bus := by
      unfold SystemBus.installCartridge
      split
      · cases h.cartridge
      · rfl
    rw [hsame]
    exact ⟨h, .refl _⟩
  · rw [installBoot_of_none h.boot]
    exact ⟨h, .refl _⟩

theorem Evolves.vacant (hevolves : Evolves bus after) (h : bus.Vacant) :
    after.Vacant ∧ after.memory.SameProtected bus.memory := by
  induction hevolves with
  | refl => exact ⟨h, .refl _⟩
  | tail _ hstep ih =>
    obtain ⟨hvacant, hsame⟩ := ih
    obtain ⟨hvacant', hsame'⟩ := hstep.vacant hvacant
    exact ⟨hvacant', hsame'.trans hsame⟩

end SystemBus

namespace Console

variable {μ σ : Type} {console : Console μ σ}

theorem vacant_release (hboot : console.board.bus.boot = none) :
    console.release.board.bus.Vacant :=
  ⟨hboot, rfl, rfl⟩

variable [SoundChip σ] [DisplayChip μ]

theorem loadCartridge_eq_release {file : Bytes} {error : ImageError}
    (h : Cartridge.load file = .error error) :
    console.loadCartridge file = (.error error, console.release) := by
  unfold loadCartridge
  simp only [h]

theorem read_reset_vacant (h : console.board.bus.Vacant)
    (hfits : ∀ cart ∈ console.highScore, cart.Fits) {address : UInt16}
    (habove : cartridgeStart ≤ address.toNat) :
    console.reset.board.bus.Vacant ∧ console.reset.board.bus.memory.read address = 0 := by
  obtain ⟨memory, hstart, hsame⟩ := sameButRam_startBus hfits false
  have hpower : (powerOnBus console.board.bus).Vacant :=
    ⟨by rw [boot_powerOnBus, h.boot], by rw [cartridge_powerOnBus, h.cartridge],
      by rw [xm_powerOnBus, h.cartridge]; rfl⟩
  have hblank : (powerOnBus console.board.bus).memory = .powerOn := by
    rw [SystemBus.memory_powerOnBus_eq, h.boot, h.cartridge]
    rfl
  rw [reset, bus_resetFor, hstart]
  refine ⟨⟨hpower.boot, hpower.cartridge, hpower.xm⟩, ?_⟩
  rw [(hsame address habove).1, hblank, Memory.read_powerOn]

/-- A file that is no cartridge is loaded into a console without a boot ROM. Nothing is plugged in
then, but the program goes on to see in cartridge space what was in memory there, where a reset
without a cartridge leaves zeros, and the timing is what it was. A cartridge that was in is left as
it was mapped, with its timing. Nothing that happens on the bus before the next reset removes what
is protected. -/
theorem failedLoad {file : Bytes} {error : ImageError} (hboot : console.board.bus.boot = none)
    (hfits : ∀ cart ∈ console.highScore, cart.Fits) (hload : Cartridge.load file = .error error) :
    let after := (console.loadCartridge file).2
    let empty := console.release.reset
    (console.loadCartridge file).1 = .error error ∧ after.board.bus.Vacant ∧
      (∀ address : UInt16, 0x4000 ≤ address.toNat →
        after.board.bus.peek address = console.board.bus.memory.read address ∧
          (after.board.bus.read address).1 = console.board.bus.memory.read address ∧
          empty.board.bus.peek address = 0) ∧
      after.board.scheduler.timing = console.board.scheduler.timing ∧
      empty.board.scheduler.timing = {} ∧
      (Attainable (· = none) console → ∀ mounted, console.cartridge? = some mounted →
        mounted.Mapped after.board.bus.memory ∧
          after.board.scheduler.timing = timingFor console.config (some mounted)) ∧
      ∀ later, SystemBus.Evolves after.board.bus later →
        later.Vacant ∧ later.memory.SameProtected console.board.bus.memory := by
  intro after empty
  have hvacant : console.release.board.bus.Vacant := vacant_release hboot
  have hafter : after = console.release := congrArg Prod.snd (loadCartridge_eq_release hload)
  rw [hafter]
  refine ⟨congrArg Prod.fst (loadCartridge_eq_release hload), hvacant, fun address habove => ?_,
    rfl, timing_resetFor console.release false, fun hattainable mounted hmounted => ?_,
    fun later hevolves => hevolves.vacant hvacant⟩
  · obtain ⟨hempty, hblank⟩ := read_reset_vacant hvacant hfits habove
    rw [hvacant.peek habove, hvacant.read habove, hempty.peek habove, hblank]
    exact ⟨rfl, rfl, rfl⟩
  · refine ⟨hattainable.laid.mapped mounted hmounted, ?_⟩
    have htimed := hattainable.timed (by rw [hmounted]; rfl)
    rw [hmounted] at htimed
    exact htimed

/-- A console with nothing but a cartridge maps it on zeros. -/
theorem memory_perform_loadCartridge (console : Console μ σ) {file : Bytes}
    {cartridge : Cartridge} (hhigh : console.highScore = none) (hdatabase : console.database = none)
    (hboot : console.board.bus.boot = none) (hload : Cartridge.load file = .ok cartridge) :
    let after := console.perform (.loadCartridge file)
    after.highScore = none ∧ after.board.bus.boot = none ∧
      after.board.bus.memory = cartridge.install .powerOn := by
  refine ⟨(highScore_perform ..).trans hhigh, ?_⟩
  rw [bus_perform_loadCartridge hhigh hdatabase hload]
  exact ⟨(boot_powerOnBus _).trans hboot, SystemBus.memory_powerOnBus_of_no_boot hboot rfl⟩

theorem read_install_wholeCartridge : (wholeCartridge.install .powerOn).read 0xC000 = 0xEA := by
  have hstart : wholeCartridge.flatStart = 0 := by
    rw [Cartridge.flatStart, size_wholeCartridge]
    rfl
  rw [Cartridge.read_install_normal rfl (Nat.le_of_eq size_wholeCartridge), hstart,
    size_wholeCartridge, if_pos (by decide)]
  show wholeFile.getD _ 0 = 0xEA
  rw [wholeFile, Array.getD_eq_getD_getElem?, Array.getElem?_replicate, if_pos (by decide)]
  rfl

/-- After a cartridge of 64 KB an empty file: the program still sees the cartridge. -/
theorem failedLoad_wholeFile :
    let console := (fresh {} {} {} {} : Console IdleDisplay SilentSound).perform
      (.loadCartridge wholeFile)
    Cartridge.load #[] = .error (.tooSmall 0) ∧
      (console.loadCartridge #[]).2.board.bus.peek 0xC000 = 0xEA ∧
      console.release.reset.board.bus.peek 0xC000 = 0 := by
  have hload : Cartridge.load #[] = .error (.tooSmall 0) := rfl
  have hloaded := memory_perform_loadCartridge
    (fresh {} {} {} {} : Console IdleDisplay SilentSound) rfl rfl rfl load_wholeFile
  dsimp only at hloaded ⊢
  generalize perform (fresh {} {} {} {} : Console IdleDisplay SilentSound) _ = console at hloaded ⊢
  obtain ⟨hhigh, hboot, hmemory⟩ := hloaded
  obtain ⟨-, -, hseen, -⟩ := failedLoad hboot (by rw [hhigh]; exact fun cart hmem => by cases hmem)
    hload
  obtain ⟨hpeek, -, hempty⟩ := hseen 0xC000 (by decide)
  refine ⟨hload, hpeek.trans ?_, hempty⟩
  rw [hmemory, read_install_wholeCartridge]

end Console
end Console7800
