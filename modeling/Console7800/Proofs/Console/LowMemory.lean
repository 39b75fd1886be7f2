import Console7800.Proofs.Cartridge.Extent
import Console7800.Proofs.Console.Playing

/-!
# Console RAM under a cartridge

Without a boot ROM, nothing below cartridge space is ever protected but what the cartridge's own
mapping reaches (`SystemBus.ProtectedBy`), and that is the part of a flat image that goes beyond
48 KB. Where nothing is protected, every register and all of pages zero and one take what is written
(`SystemBus.Writable`); a write to a protected address there is lost (`SystemBus.write_lost`).
-/

namespace Console7800

/-- Below cartridge space, mapping protects what it reaches. -/
theorem Cartridge.isRom_install_below (cartridge : Cartridge) (memory : Memory) {address : UInt16}
    (h : address.toNat < cartridgeStart) :
    (cartridge.install memory).isRom address =
      (decide (cartridge.lowest ≤ address.toNat) || memory.isRom address) := by
  by_cases hflat : cartridge.mapper = .normal
  · exact isRom_install_flat hflat memory address
  · have hlowest := lowest_banked hflat
    rw [(cartridge.sameUnder_install memory address (by rw [hlowest]; exact h)).2, hlowest,
      decide_eq_false (Nat.not_le.2 h), Bool.false_or]

namespace SystemBus

variable {σ : Type} [SoundChip σ]

/-! ## What is protected -/

/-- A cartridge is mounted, without a boot ROM, and below cartridge space just what mapping it
reaches is protected. -/
structure ProtectedBy (mounted : Cartridge) (bus : SystemBus σ) : Prop where
  boot : bus.boot = none
  cartridge : bus.cartridge.map Cartridge.unbanked = some mounted.unbanked
  isRom : ∀ address : UInt16, address.toNat < cartridgeStart →
    bus.memory.isRom address = decide (mounted.lowest ≤ address.toNat)

variable {mounted : Cartridge} {bus after : SystemBus σ}

omit [SoundChip σ] in
theorem lowest_eq {cartridge : Cartridge} (hc : bus.cartridge = some cartridge)
    (h : bus.cartridge.map Cartridge.unbanked = some mounted.unbanked) :
    cartridge.lowest = mounted.lowest := by
  rw [hc] at h
  have hlowest := congrArg Cartridge.lowest (Option.some.inj h)
  exact hlowest

omit [SoundChip σ] in
theorem Change.protectedBy (h : Change bus after) (hbus : bus.ProtectedBy mounted) :
    after.ProtectedBy mounted := by
  refine ⟨h.plugged.1.trans hbus.boot, h.plugged.2.trans hbus.cartridge, fun address hlt => ?_⟩
  rw [← hbus.isRom address hlt]
  cases h with
  | tia | pokey | riot | moduleRam | moduleControl => rfl
  | latch value => exact Memory.isRom_poke ..
  | store value => exact Memory.isRom_store ..
  | romWrite value => exact (bus.sameUnder_romWrite _ value address hlt).2
  | installBoot => rw [installBoot_of_none hbus.boot]
  | installCartridge =>
    have hkept := hbus.isRom address hlt
    unfold SystemBus.installCartridge
    split
    · rename_i cartridge _ _ _
      rw [cartridge.isRom_install_below _ hlt, lowest_eq rfl hbus.cartridge, ← hkept, Bool.or_self]
    · rfl

theorem protectedBy_powerOnBus (hboot : bus.boot = none)
    (h : bus.cartridge.map Cartridge.unbanked = some mounted.unbanked) :
    (Console.powerOnBus bus).ProtectedBy mounted := by
  obtain ⟨cartridge, hc, -⟩ := Option.map_eq_some_iff.1 h
  refine ⟨by rw [Console.boot_powerOnBus, hboot], by rw [Console.cartridge_powerOnBus, h],
    fun address hlt => ?_⟩
  rw [memory_powerOnBus_of_no_boot hboot hc, cartridge.isRom_install_below _ hlt, lowest_eq hc h,
    Memory.isRom_powerOn, decide_eq_false (Nat.not_le.2 hlt), Bool.or_false]

theorem lasting_protectedBy (mounted : Cartridge) (loadable : Bytes → Prop) :
    Lasting loadable (ProtectedBy mounted : SystemBus σ → Prop) where
  change h hbus := h.protectedBy hbus
  powerOn hbus := protectedBy_powerOnBus hbus.boot hbus.cartridge
  restore {bus _ parts} _ _ hbus := by
    refine ⟨hbus.boot, (bus.unbanked_selectBank parts.bank).trans hbus.cartridge,
      fun address hlt => ?_⟩
    rw [← hbus.isRom address hlt]
    exact (parts.isRom_onMemory _ address).trans (bus.sameUnder_selectBank parts.bank address hlt).2

/-! ## What can be written -/

/-- Every register below cartridge space takes what is written to it, and so do pages zero and
one. -/
structure Writable (bus : SystemBus σ) : Prop where
  unprotected : ∀ address : UInt16, address.toNat < cartridgeStart →
    bus.memory.isRom address = false
  waitSync : ∀ value, (bus.write waitSync value).takeWait.1 = true
  inputControl : bus.write inputControl mapCartridge = bus.installCartridge
  tia : ∀ (address : UInt16) (value : UInt8),
    firstSoundRegister ≤ address → address ≤ lastSoundRegister →
      (bus.write address value).tia = SoundChip.write bus.tia address.toUInt8 value
  riot : ∀ (address : UInt16) (value : UInt8), isRiot address →
    (bus.write address value).riot = bus.riot.write address value
  ram : ∀ (address : UInt16) (value : UInt8), address < 0x0200 → ¬ IsLatch address →
    (bus.write address value).memory.read address = value

theorem read_writeRegister_ram (bus : SystemBus σ) {address : UInt16} (h : address < 0x0200)
    (hlatch : ¬ IsLatch address) (value : UInt8) :
    (bus.writeRegister address value).memory.read address = value := by
  have hriot : isRiot address = false := by
    have hbelow : ¬ riotStart ≤ address := UInt16.not_le.2 (UInt16.lt_trans h (by decide))
    simp [isRiot, hbelow]
  rw [bus.writeRegister_of_not_latch hlatch, hriot]
  split
  · exact (Memory.read_poke ..).trans (if_pos rfl)
  · exact (Memory.read_store ..).trans (if_pos (.inl rfl))

theorem write_sound {address : UInt16} (hfirst : firstSoundRegister ≤ address)
    (hlast : address ≤ lastSoundRegister) (hrom : bus.memory.isRom address = false)
    (value : UInt8) :
    (bus.write address value).tia = SoundChip.write bus.tia address.toUInt8 value := by
  rw [bus.write_low (UInt16.lt_of_le_of_lt hlast (by decide)) hrom,
    bus.writeRegister_of_not_latch (not_isLatch_sound hfirst hlast), if_pos ⟨hfirst, hlast⟩]
  rfl

theorem takeWait_write (hrom : bus.memory.isRom waitSync = false) (value : UInt8) :
    (bus.write waitSync value).takeWait.1 = true := by
  have hwritten : (bus.write waitSync value).memory.read waitSync = 1 := by
    rw [bus.write_low (by decide) hrom, writeRegister, if_pos rfl]
    exact (Memory.read_poke ..).trans (if_pos rfl)
  unfold takeWait
  rw [hwritten]
  rfl

theorem writable_of_unprotected
    (h : ∀ address : UInt16, address.toNat < cartridgeStart → bus.memory.isRom address = false) :
    bus.Writable := by
  have hbelow {address : UInt16} (limit : UInt16) (hlt : address < limit)
      (hlimit : limit.toNat ≤ cartridgeStart) : bus.memory.isRom address = false :=
    h address (Nat.lt_of_lt_of_le (UInt16.lt_iff_toNat_lt.1 hlt) hlimit)
  refine ⟨h, takeWait_write (h _ (by decide)), write_inputControl (h _ (by decide)),
    fun address value hfirst hlast => ?_, fun address value hriot => ?_,
    fun address value hlt hlatch => ?_⟩
  · have hlt : address < 0x0040 := UInt16.lt_of_le_of_lt hlast (by decide)
    exact write_sound hfirst hlast (hbelow 0x0040 hlt (by decide)) value
  · have hrange : riotStart ≤ address ∧ address ≤ riotEnd := by simpa [isRiot] using hriot
    have hlt : address < 0x0400 := UInt16.lt_of_le_of_lt hrange.2 (by decide)
    rw [bus.write_riot hriot (hbelow 0x0400 hlt (by decide))]
    rfl
  · rw [bus.write_low (UInt16.lt_trans hlt (by decide)) (hbelow 0x0200 hlt (by decide))]
    exact bus.read_writeRegister_ram hlt hlatch value

/-- What is written to a protected address of the console's own is lost. -/
theorem write_lost {address : UInt16} (h : address < 0x0450)
    (hrom : bus.memory.isRom address = true) (value : UInt8) : bus.write address value = bus := by
  rw [bus.write_protected (bus.moduleTarget?_below h) (bus.pokeyRegister?_below h) hrom,
    bus.romWrite_below (UInt16.lt_trans h (by decide))]

end SystemBus

/-! ## Consoles -/

namespace Console

variable {μ σ : Type} [SoundChip σ] [DisplayChip μ]

theorem protectedBy_played {console after : Console μ σ} {file : Bytes} {cartridge : Cartridge}
    (hboot : console.board.bus.boot = none) (hload : Cartridge.load file = .ok cartridge)
    (hplayed : Played (console.loadCartridge file).2 after) :
    after.board.bus.ProtectedBy (console.configured cartridge) := by
  have hlasting : SystemBus.Lasting (fun _ => True)
      (SystemBus.ProtectedBy (console.configured cartridge) : SystemBus σ → Prop) :=
    SystemBus.lasting_protectedBy _ _
  refine hlasting.played ?_ hplayed
  rw [loadCartridge_eq hload, reset, bus_resetFor]
  exact hlasting.evolves ((console.mounting cartridge).evolves_startBus false)
    (SystemBus.protectedBy_powerOnBus hboot rfl)

/-- A cartridge is loaded into a console without a boot ROM, and anything is done that leaves the
cartridge in. Below cartridge space just what a flat image of more than 48 KB reaches is protected;
so everything there can be written exactly if the image is not of that kind. -/
theorem writable_played_iff {console after : Console μ σ} {file : Bytes} {cartridge : Cartridge}
    (hboot : console.board.bus.boot = none) (hload : Cartridge.load file = .ok cartridge)
    (hplayed : Played (console.loadCartridge file).2 after) :
    let mounted := console.configured cartridge
    (∀ address : UInt16, address.toNat < 0x4000 →
        (after.board.bus.memory.isRom address = true ↔
          mounted.mapper = .normal ∧ 0x10000 ≤ address.toNat + mounted.image.size)) ∧
      (after.board.bus.Writable ↔ (mounted.mapper = .normal → mounted.image.size ≤ 0xC000)) ∧
      ∀ (address : UInt16) (value : UInt8), address < 0x0450 →
        after.board.bus.memory.isRom address = true →
          after.board.bus.write address value = after.board.bus := by
  intro mounted
  have hprotected := protectedBy_played hboot hload hplayed
  refine ⟨fun address hlt => ?_, ⟨fun hwritable => ?_, fun hsize => ?_⟩,
    fun address value hlt hrom => SystemBus.write_lost hlt hrom value⟩
  · rw [hprotected.isRom address hlt, decide_eq_true_iff]
    by_cases hflat : mounted.mapper = .normal
    · rw [Cartridge.lowest_flat hflat]
      simp only [hflat, true_and]
      omega
    · rw [Cartridge.lowest_banked hflat]
      simp only [hflat, false_and, iff_false]
      exact Nat.not_le.2 hlt
  · have htop : (0x3FFF : UInt16).toNat < cartridgeStart := by decide
    have hfree := hwritable.unprotected 0x3FFF htop
    rw [hprotected.isRom _ htop, decide_eq_false_iff_not] at hfree
    exact Cartridge.cartridgeStart_le_lowest_iff.1 (Nat.not_le.1 hfree)
  · refine SystemBus.writable_of_unprotected fun address hlt => ?_
    rw [hprotected.isRom address hlt, decide_eq_false_iff_not]
    have hlowest := Cartridge.cartridgeStart_le_lowest_iff.2 hsize
    exact fun hle => absurd hlt (Nat.not_lt.2 (Nat.le_trans hlowest hle))

/-! ## A file of 64 KB -/

def wholeFile : Bytes := .replicate 0x10000 0xEA

def wholeCartridge : Cartridge := { Cartridge.ofImage wholeFile with mapper := .normal }

theorem size_wholeCartridge : wholeCartridge.image.size = 0x10000 := Array.size_replicate

theorem load_wholeFile : Cartridge.load wholeFile = .ok wholeCartridge :=
  load_replicate (by decide) (by decide)

/-- A console with that file never waits for the end of a line. -/
theorem writable_played_iff_wholeFile :
    let console := ((fresh {} {} {} {} : Console IdleDisplay SilentSound).loadCartridge wholeFile).2
    let after := console.perform (.write waitSync 1)
    after.board.bus.memory.isRom waitSync = true ∧ ¬ after.board.bus.Writable ∧
      after.board.bus.write waitSync 1 = after.board.bus := by
  intro console after
  have hplayed : Played console after :=
    .act .start (show (Action.write waitSync 1).Plays from trivial)
  have hresult := writable_played_iff rfl load_wholeFile hplayed
  dsimp only at hresult
  rw [configured_eq rfl, size_wholeCartridge] at hresult
  obtain ⟨hrom, hwritable, hlost⟩ := hresult
  have hprotected := (hrom waitSync (by decide)).2 ⟨rfl, Nat.le_add_left ..⟩
  exact ⟨hprotected, fun h => absurd (hwritable.1 h rfl) (by decide),
    hlost _ _ (by decide) hprotected⟩

end Console
end Console7800
