import Console7800.Proofs.Cartridge.Extent
import Console7800.Proofs.Console.PowerCycle

/-!
# What stays of the boot ROM after the handover

While the program of the boot ROM runs, and until a write reaches the mapper or maps the cartridge
(`SystemBus.Booting`), cartridge space shows the boot ROM over zeros (`SystemBus.BootOnTop`). The
write that hands over maps the cartridge on top of that, where a console without a boot ROM maps it
on zeros. So the flags agree after it, and so do the bytes that the cartridge reaches; at the other
addresses the boot ROM is still there (`handover_boot`).
-/

namespace Console7800

open Memory (Overlays)

/-- An overlay that is put on its own result again changes nothing of it. -/
theorem Memory.Overlays.again {extents : List (UInt16 × Nat)} {f : Memory → Memory}
    {memory base : Memory} (h : Overlays extents f) (hmemory : memory.SameAbove (f base)) :
    (f memory).SameAbove (f base) := by
  intro address habove
  by_cases hcovers : Memory.Covers extents address
  · exact h.eq_inside hcovers memory base
  · obtain ⟨hread, hrom⟩ := h.outside address hcovers memory
    rw [hread, hrom]
    exact hmemory address habove

namespace BootRom

variable (boot : BootRom)

/-- What is seen at an address where the boot ROM is mapped over zeros. -/
def byteAt (address : UInt16) : UInt8 :=
  if boot.lowest ≤ address.toNat then boot.image.getD (address.toNat - boot.lowest) 0 else 0

theorem toNat_start : (UInt16.ofNat (65536 - boot.image.size)).toNat = boot.lowest := by
  have hpositive := boot.positive
  rw [lowest, UInt16.toNat_ofNat']
  exact Nat.mod_eq_of_lt (by omega)

theorem within_iff (address : UInt16) :
    Memory.Within (UInt16.ofNat (65536 - boot.image.size)) boot.image.size address ↔
      boot.lowest ≤ address.toNat := by
  have hfits := boot.fits
  have hlt : address.toNat < 65536 := address.toNat_lt
  rw [Memory.Within, toNat_start, lowest]
  omega

theorem overlays_install : ∃ extents, Overlays extents boot.install :=
  ⟨_, Memory.overlays_writeRom (UInt16.ofNat (65536 - boot.image.size)) boot.image⟩

theorem read_install_powerOn (address : UInt16) :
    (boot.install .powerOn).read address = boot.byteAt address := by
  rw [install, Memory.read_writeRom, toNat_start, Memory.read_powerOn, byteAt]
  simp only [within_iff]

theorem cartridgeStart_le_lowest (hsize : boot.image.size ≤ 0xC000) :
    cartridgeStart ≤ boot.lowest := by
  rw [lowest, cartridgeStart]
  omega

/-- An image of at most 48 KB protects cartridge space and nothing else. -/
theorem isRom_install_powerOn (hsize : boot.image.size ≤ 0xC000) (address : UInt16) :
    (boot.install .powerOn).isRom address = decide (cartridgeStart ≤ address.toNat) := by
  rw [install, Memory.isRom_writeRom, Memory.isRom_powerOn]
  simp only [within_iff]
  split
  · rename_i hreached
    exact (decide_eq_true (Nat.le_trans (boot.cartridgeStart_le_lowest hsize) hreached)).symm
  · rfl

end BootRom

namespace SystemBus

variable {σ : Type} {start bus after : SystemBus σ} {boot : BootRom} {mounted : Option Cartridge}

/-! ## While the boot ROM's program runs -/

/-- The same things plugged in, the same flags, and the same protected bytes in cartridge space. -/
structure Calm (bus after : SystemBus σ) : Prop extends Undisturbed bus after where
  isRom : ∀ address, after.memory.isRom address = bus.memory.isRom address

theorem Calm.of_memory_eq (hboot : after.boot = bus.boot)
    (hcartridge : after.cartridge = bus.cartridge) (hmemory : after.memory = bus.memory) :
    Calm bus after := by
  refine ⟨⟨hboot, hcartridge, ?_⟩, fun address => by rw [hmemory]⟩
  rw [hmemory]
  exact .refl _

theorem calm_poke (bus : SystemBus σ) {address : UInt16} (value : UInt8) (h : address < 0x0040) :
    Calm bus (bus.mapMemory (·.poke address value)) := by
  have hbelow : address.toNat < cartridgeStart :=
    Nat.lt_trans (UInt16.lt_iff_toNat_lt.1 h) (by decide)
  exact ⟨⟨rfl, rfl, (Memory.sameAbove_poke _ value hbelow).protected⟩,
    fun _ => Memory.isRom_poke ..⟩

theorem calm_store (bus : SystemBus σ) {address : UInt16} (value : UInt8)
    (h : bus.memory.isRom address = false) : Calm bus (bus.mapMemory (·.store address value)) :=
  ⟨⟨rfl, rfl, Memory.sameProtected_store _ value h⟩, fun _ => Memory.isRom_store ..⟩

/-- All that happens on a bus is calm, but for what a write to protected memory and what mapping
does. -/
theorem Change.calm_cases (h : Change bus after) :
    Calm bus after ∨
      (∃ address value, bus.memory.isRom address = true ∧ after = bus.romWrite address value) ∨
      after = bus.installCartridge ∨ after = bus.installBoot := by
  cases h with
  | tia | pokey | riot | moduleRam | moduleControl => exact .inl (.of_memory_eq rfl rfl rfl)
  | latch value hlow => exact .inl (bus.calm_poke value hlow)
  | store value hrom => exact .inl (bus.calm_store value hrom)
  | romWrite value hrom => exact .inr (.inl ⟨_, value, hrom, rfl⟩)
  | installCartridge => exact .inr (.inr (.inl rfl))
  | installBoot => exact .inr (.inr (.inr rfl))

/-- What can become of a bus before a write reaches the mapper or maps the cartridge. -/
inductive Booting (start : SystemBus σ) : SystemBus σ → Prop where
  | start : Booting start start
  | calm {bus after : SystemBus σ} (h : Booting start bus) (hcalm : Calm bus after) :
    Booting start after
  | installBoot {bus : SystemBus σ} (h : Booting start bus) : Booting start bus.installBoot

theorem Booting.change (h : Booting start bus) (hstep : Change bus after) :
    Booting start after ∨
      (∃ address value, bus.memory.isRom address = true ∧ after = bus.romWrite address value) ∨
      after = bus.installCartridge := by
  rcases hstep.calm_cases with hcalm | hwrite | hmap | rfl
  · exact .inl (h.calm hcalm)
  · exact .inr (.inl hwrite)
  · exact .inr (.inr hmap)
  · exact .inl h.installBoot

section

variable [SoundChip σ]

theorem Booting.read (h : Booting start bus) (address : UInt16) :
    Booting start (bus.read address).2 := by
  have hpokey (register : UInt8) : Calm bus (bus.readPokey register).2 :=
    .of_memory_eq rfl rfl rfl
  refine h.calm ?_
  unfold SystemBus.read readConsole
  repeat' split
  all_goals first | exact hpokey _ | exact .of_memory_eq rfl rfl rfl

theorem Booting.writeRegister (h : Booting start bus) {address : UInt16} {value : UInt8}
    (hrom : bus.memory.isRom address = false)
    (hmap : address = inputControl → value ≠ mapCartridge) :
    Booting start (bus.writeRegister address value) := by
  unfold SystemBus.writeRegister
  split
  · exact h.calm (bus.calm_poke 1 (by decide))
  · split
    · rename_i haddress
      rw [if_neg (hmap haddress)]
      split
      · exact h.installBoot
      · exact h
    · split
      · exact h
      · split
        · rename_i hsound
          have hlow : address < 0x0040 := UInt16.lt_of_le_of_lt hsound.2 (by decide)
          have hplayed : Booting start (bus.mapTia (SoundChip.write · address.toUInt8 value)) :=
            h.calm (.of_memory_eq rfl rfl rfl)
          exact hplayed.calm (calm_poke _ value hlow)
        · split
          · exact h.calm (.of_memory_eq rfl rfl rfl)
          · exact h.calm (bus.calm_store value hrom)

theorem Booting.write (h : Booting start bus) {address : UInt16} {value : UInt8}
    (hrom : bus.memory.isRom address = false)
    (hmap : address = inputControl → value ≠ mapCartridge) :
    Booting start (bus.write address value) := by
  unfold SystemBus.write
  split
  · exact h.calm (.of_memory_eq rfl rfl rfl)
  · exact h.calm (.of_memory_eq rfl rfl rfl)
  · exact h.calm (.of_memory_eq rfl rfl rfl)
  · unfold writeConsole
    rw [hrom]
    split
    · exact h.calm (.of_memory_eq rfl rfl rfl)
    · exact h.writeRegister hrom hmap

end

/-! ## What is seen then -/

/-- Cartridge space is protected and shows the boot ROM over zeros; nothing else is protected. -/
structure BootOnTop (boot : BootRom) (mounted : Option Cartridge) (bus : SystemBus σ) : Prop where
  boot_eq : bus.boot = some boot
  cartridge_eq : bus.cartridge = mounted
  memory : bus.memory.SameAbove (boot.install .powerOn)
  isRom : ∀ address, bus.memory.isRom address = decide (cartridgeStart ≤ address.toNat)

theorem BootOnTop.calm (h : bus.BootOnTop boot mounted) (hcalm : Calm bus after) :
    after.BootOnTop boot mounted := by
  refine ⟨hcalm.boot_eq.trans h.boot_eq, hcalm.cartridge_eq.trans h.cartridge_eq,
    fun address habove => ?_, fun address => (hcalm.isRom address).trans (h.isRom address)⟩
  have hprotected : bus.memory.isRom address = true := by
    rw [h.isRom, decide_eq_true habove]
  obtain ⟨hread, hrom⟩ := h.memory address habove
  exact ⟨((hcalm.memory address habove).2 hprotected).trans hread,
    (hcalm.isRom address).trans hrom⟩

theorem BootOnTop.installBoot (h : bus.BootOnTop boot mounted) (hsize : boot.image.size ≤ 0xC000) :
    bus.installBoot.BootOnTop boot mounted := by
  obtain ⟨memory, riot, tia, pokey, cartridge, xm, installed, enabled⟩ := bus
  obtain ⟨hboot, hcartridge, hmemory, hrom⟩ := h
  obtain rfl : installed = some boot := hboot
  cases enabled with
  | false => exact ⟨rfl, hcartridge, hmemory, hrom⟩
  | true =>
    obtain ⟨extents, hoverlays⟩ := boot.overlays_install
    refine ⟨rfl, hcartridge, hoverlays.again hmemory, fun address => ?_⟩
    by_cases habove : cartridgeStart ≤ address.toNat
    · have hflag := (hoverlays.again hmemory address habove).2
      rw [boot.isRom_install_powerOn hsize] at hflag
      exact hflag
    · have hlowest := boot.cartridgeStart_le_lowest hsize
      have hunder := boot.sameUnder_install memory address (by omega)
      exact hunder.2.trans (hrom address)

theorem Booting.bootOnTop (h : Booting start bus) (hsize : boot.image.size ≤ 0xC000)
    (hstart : start.BootOnTop boot mounted) : bus.BootOnTop boot mounted := by
  induction h with
  | start => exact hstart
  | calm _ hcalm ih => exact ih.calm hcalm
  | installBoot _ ih => exact ih.installBoot hsize

/-- The cartridge mapped over the boot ROM, and mapped over zeros. -/
theorem BootOnTop.install {cartridge : Cartridge} (h : bus.BootOnTop boot mounted)
    {address : UInt16} (habove : cartridgeStart ≤ address.toNat) :
    (cartridge.install bus.memory).isRom address =
        (cartridge.install .powerOn).isRom address ∧
      (cartridge.Reaches address →
        (cartridge.install bus.memory).read address =
          (cartridge.install .powerOn).read address) ∧
      (¬ cartridge.Reaches address →
        (cartridge.install bus.memory).read address = boot.byteAt address ∧
          (cartridge.install .powerOn).read address = 0) := by
  have hoverlays := cartridge.overlays_install
  by_cases hreached : cartridge.Reaches address
  · obtain ⟨hread, hrom⟩ := hoverlays.eq_inside hreached bus.memory .powerOn
    exact ⟨hrom, fun _ => hread, fun hout => absurd hreached hout⟩
  · obtain ⟨hread, hrom⟩ := hoverlays.outside address hreached bus.memory
    obtain ⟨hread', hrom'⟩ := hoverlays.outside address hreached .powerOn
    refine ⟨?_, fun hin => absurd hin hreached, fun _ => ⟨?_, ?_⟩⟩
    · rw [hrom, hrom', h.isRom, Memory.isRom_powerOn]
    · rw [hread, (h.memory address habove).1, boot.read_install_powerOn]
    · rw [hread', Memory.read_powerOn]

end SystemBus

namespace Console

variable {μ σ : Type} [SoundChip σ] [DisplayChip μ] {console : Console μ σ} {boot : BootRom}
  {cartridge : Cartridge}

theorem bootOnTop_reset (hfits : ∀ cart ∈ console.highScore, cart.Fits)
    (hboot : console.board.bus.boot = some boot) (hsize : boot.image.size ≤ 0xC000)
    (hc : console.cartridge? = some cartridge) (henabled : cartridge.disableBios = false) :
    console.reset.board.bus.BootOnTop boot (some cartridge) := by
  have hpower : (powerOnBus console.board.bus).memory = boot.install .powerOn := by
    rw [SystemBus.memory_powerOnBus_eq, hboot, show console.board.bus.cartridge = _ from hc]
    simp [henabled]
  rw [reset, bus_resetFor, startBus_eq hfits]
  refine ⟨(boot_powerOnBus _).trans hboot, (cartridge_powerOnBus _).trans hc, ?_, fun address => ?_⟩
  · rw [← hpower]
    exact sameAbove_mountedMemory hfits false _
  · have hflag := console.isRom_mountedMemory false (powerOnBus console.board.bus).memory address
    rw [hpower, boot.isRom_install_powerOn hsize] at hflag
    rw [← hflag, ← hpower]
    rfl

theorem sameAbove_reset_unbooted (hfits : ∀ cart ∈ console.highScore, cart.Fits)
    (hc : console.cartridge? = some cartridge) :
    (console.setBoot none).reset.board.bus.memory.SameAbove (cartridge.install .powerOn) := by
  have hfits' : ∀ cart ∈ (console.setBoot none).highScore, cart.Fits := hfits
  have hpower : (powerOnBus (console.setBoot none).board.bus).memory = cartridge.install .powerOn :=
    SystemBus.memory_powerOnBus_of_no_boot rfl hc
  rw [reset, bus_resetFor, startBus_eq hfits', ← hpower]
  exact sameAbove_mountedMemory hfits' false _

/-- A reset starts a boot ROM of at most 48 KB, and its program maps the cartridge before any write
of it reaches the mapper. Cartridge space is protected then as on the same console without a boot
ROM after a reset, and the bytes that the cartridge reaches are the same. The others show the boot
ROM still, and zeros on the console without one; so cartridge space is the same exactly if the boot
ROM has zeros wherever the cartridge does not reach. -/
theorem handover_boot {bus : SystemBus σ} (hfits : ∀ cart ∈ console.highScore, cart.Fits)
    (hboot : console.board.bus.boot = some boot) (hsize : boot.image.size ≤ 0xC000)
    (hc : console.cartridge? = some cartridge) (henabled : cartridge.disableBios = false)
    (hbooting : console.reset.board.bus.Booting bus) :
    let handed := (bus.write inputControl SystemBus.mapCartridge).memory
    let plain := (console.setBoot none).reset.board.bus.memory
    (∀ address : UInt16, 0x4000 ≤ address.toNat →
        handed.isRom address = plain.isRom address ∧
          (cartridge.Reaches address → handed.read address = plain.read address) ∧
          (¬ cartridge.Reaches address →
            handed.read address = boot.byteAt address ∧ plain.read address = 0)) ∧
      (handed.SameAbove plain ↔
        ∀ address : UInt16, 0x4000 ≤ address.toNat → ¬ cartridge.Reaches address →
          boot.byteAt address = 0) := by
  intro handed plain
  have htop := hbooting.bootOnTop hsize (bootOnTop_reset hfits hboot hsize hc henabled)
  have hplain := sameAbove_reset_unbooted hfits hc
  have hhanded : handed = cartridge.install bus.memory := by
    have hrom : bus.memory.isRom inputControl = false := by
      rw [htop.isRom]
      rfl
    show (bus.write inputControl SystemBus.mapCartridge).memory = _
    rw [SystemBus.write_inputControl hrom, SystemBus.installCartridge_eq htop.cartridge_eq]
  have hseen : ∀ address : UInt16, 0x4000 ≤ address.toNat →
      handed.isRom address = plain.isRom address ∧
        (cartridge.Reaches address → handed.read address = plain.read address) ∧
        (¬ cartridge.Reaches address →
          handed.read address = boot.byteAt address ∧ plain.read address = 0) := by
    intro address habove
    obtain ⟨hplainRead, hplainRom⟩ := hplain address habove
    rw [hhanded, hplainRead, hplainRom]
    exact htop.install habove
  refine ⟨hseen, fun hsame address habove hreached => ?_, fun hblank address habove => ?_⟩
  · obtain ⟨hbyte, hzero⟩ := (hseen address habove).2.2 hreached
    rw [← hbyte, (hsame address habove).1, hzero]
  · obtain ⟨hrom, hin, hout⟩ := hseen address habove
    refine ⟨?_, hrom⟩
    by_cases hreached : cartridge.Reaches address
    · exact hin hreached
    · rw [(hout hreached).1, (hout hreached).2, hblank address habove hreached]

/-! ## A boot ROM that is longer than the cartridge -/

def longBoot : BootRom where
  image := .replicate 256 1
  positive := by rw [Array.size_replicate]; decide
  fits := by rw [Array.size_replicate]; decide

theorem size_longBoot : longBoot.image.size = 256 := Array.size_replicate

theorem size_longBoot_le : longBoot.image.size ≤ 0xC000 := size_longBoot ▸ by decide

def blankCartridge : Cartridge := { Cartridge.ofImage blankFile with mapper := .normal }

/-- The console with that boot ROM and the blank cartridge, before its reset. -/
def longBootConsole : Console IdleDisplay SilentSound :=
  ((fresh {} {} {} {}).setBoot longBoot).mounting blankCartridge

theorem cartridge?_longBootConsole : longBootConsole.cartridge? = some blankCartridge := rfl

theorem not_reaches_blankCartridge : ¬ blankCartridge.Reaches 0xFF00 := by
  rintro ⟨extent, hmem, hstart, -⟩
  simp only [Cartridge.extents, blankCartridge, Cartridge.ofImage, size_blankFile] at hmem
  obtain rfl := List.mem_singleton.1 hmem
  exact absurd hstart (by decide)

theorem byteAt_longBoot : longBoot.byteAt 0xFF00 = 1 := by
  rw [BootRom.byteAt, BootRom.lowest, size_longBoot, if_pos (by decide)]
  simp [longBoot]

/-- Its program maps the boot ROM once more and then the cartridge: at the first address of the boot
ROM this is still seen. -/
theorem handover_boot_longBoot :
    let booted := longBootConsole.reset.board.bus
    let bus := booted.write inputControl SystemBus.mapBoot
    booted.Booting bus ∧
      (bus.write inputControl SystemBus.mapCartridge).memory.read 0xFF00 = 1 ∧
      (longBootConsole.setBoot none).reset.board.bus.memory.read 0xFF00 = 0 := by
  intro booted bus
  have hfits : ∀ cart ∈ longBootConsole.highScore, cart.Fits := fun cart hmem => by cases hmem
  have hboot : longBootConsole.board.bus.boot = some longBoot := rfl
  have htop : booted.BootOnTop longBoot (some blankCartridge) :=
    bootOnTop_reset hfits hboot size_longBoot_le cartridge?_longBootConsole rfl
  have hbooting : booted.Booting bus :=
    SystemBus.Booting.start.write (by rw [htop.isRom]; rfl) fun _ => by decide
  have hshown := (handover_boot hfits hboot size_longBoot_le cartridge?_longBootConsole rfl
    hbooting).1 0xFF00 (by decide)
  obtain ⟨hbyte, hzero⟩ := hshown.2.2 not_reaches_blankCartridge
  exact ⟨hbooting, hbyte.trans byteAt_longBoot, hzero⟩

end Console
end Console7800
