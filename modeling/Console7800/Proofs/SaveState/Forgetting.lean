import Console7800.Proofs.SaveState.RoundTrip

/-!
# A loaded state leaves nothing of the past

Two consoles with the same cartridge that load the same state go on alike, whatever was done to them
before: what the state does not hold comes from the reset, and what neither settles is outside the
console, the levels on its pins.
-/

namespace Console7800

/-- Pins and timer as they are with nothing driven onto the pins. -/
def Riot.unplugged (riot : Riot) : Riot :=
  { riot with
    pinsA := { riot.pinsA with external := 0xFF }
    pinsB := { riot.pinsB with external := 0xFF } }

namespace Cartridge

theorem bank_eq_of_unbanked {first second : Cartridge} (h : first.unbanked = second.unbanked) :
    second = { first with bank := second.bank } := by
  have hback (cartridge : Cartridge) :
      cartridge = { cartridge.unbanked with bank := cartridge.bank } := rfl
  rw [hback second, ← h]
  rfl

theorem selectBank_congr {first second : Cartridge} (h : first.unbanked = second.unbanked)
    (hfirst : first.BankFits) (hsecond : second.BankFits) {bank : UInt8} (memory : Memory)
    (hbank : first.mapper.window?.isSome → first.bankOffset bank < first.image.size) :
    first.selectBank memory bank = second.selectBank memory bank := by
  have heq := bank_eq_of_unbanked h
  generalize second.bank = other at heq
  subst heq
  cases hwindow : first.mapper.window? with
  | none =>
    have hzero : other = first.bank := (hsecond hwindow).trans (hfirst hwindow).symm
    rw [hzero]
  | some window =>
    have hoffset := hbank (Option.isSome_of_eq_some hwindow)
    have hoffset' : Cartridge.bankOffset { first with bank := other } bank < first.image.size :=
      hoffset
    unfold selectBank
    simp only [hwindow, if_pos hoffset, if_pos hoffset']
    rfl

end Cartridge

/-! ## The two consoles -/

namespace SaveState

/-- A state is checked and read without the bank that was selected last. -/
theorem parse_unbanked (data : Bytes) (cartridge? : Option Cartridge) :
    parse data (cartridge?.map Cartridge.unbanked) = parse data cartridge? := by
  cases cartridge? <;> rfl

theorem bank_of_parse {data : Bytes} {cartridge? : Option Cartridge} {parts : Parts}
    (h : parse data cartridge? = .ok parts) : parts.bank = data.getD bankStart 0 := by
  unfold parse at h
  split at h
  · cases h
  · split at h
    · cases h
    · split at h
      · cases h
      · dsimp only at h
        split at h
        · cases h
        · split at h
          · cases h
          · rw [← Except.ok.inj h]
            rfl

theorem unplugged_onRiot (parts : Parts) {first second : Riot}
    (h : first.unplugged = second.unplugged) :
    (parts.onRiot first).unplugged = (parts.onRiot second).unplugged := by
  have hrestore : ∀ (riot : Riot) (data : Bytes),
      (riot.restore data).unplugged = (riot.unplugged.restore data).unplugged := fun _ _ => rfl
  unfold Parts.onRiot
  split
  · rw [hrestore, hrestore second, h]
  · exact h

end SaveState

namespace Console

variable {μ σ : Type}

theorem timingFor_unbanked (config : Config) (cartridge? : Option Cartridge) :
    timingFor config (cartridge?.map Cartridge.unbanked) = timingFor config cartridge? := by
  cases cartridge? <;> rfl

theorem controlsFor_unbanked (timing : Timing) (cartridge? : Option Cartridge) :
    controlsFor timing (cartridge?.map Cartridge.unbanked) = controlsFor timing cartridge? := by
  cases cartridge? <;> rfl

theorem any_expansion_unbanked (cartridge? : Option Cartridge) :
    (cartridge?.map Cartridge.unbanked).any (·.expansion) = cartridge?.any (·.expansion) := by
  cases cartridge? <;> rfl

/-- What two consoles have in common that go on alike. -/
structure SameGame (first second : Console μ σ) : Prop where
  registers : first.board.cpu.registers = second.board.cpu.registers
  halfCycle : first.board.cpu.halfCycle = second.board.cpu.halfCycle
  memory : first.board.bus.memory = second.board.bus.memory
  cartridge : first.cartridge? = second.cartridge?
  riot : first.board.bus.riot.unplugged = second.board.bus.riot.unplugged
  xm : first.board.bus.xm = second.board.bus.xm
  scheduler : first.board.scheduler = second.board.scheduler
  controls : first.controls = second.controls

variable [SoundChip σ]

/-- After power-on the selection of a bank meets the same memory and the same cartridge. -/
theorem selectBank_powerOnBus {first second : SystemBus σ} {bank : UInt8}
    (hfirst : first.Coherent) (hsecond : second.Coherent) (hboot : first.boot = second.boot)
    (hcartridge :
      first.cartridge.map Cartridge.unbanked = second.cartridge.map Cartridge.unbanked)
    (hbank : ∀ cartridge ∈ first.cartridge, cartridge.mapper.window?.isSome →
      cartridge.bankOffset bank < cartridge.image.size) :
    ((powerOnBus first).selectBank bank).memory = ((powerOnBus second).selectBank bank).memory ∧
      ((powerOnBus first).selectBank bank).cartridge =
        ((powerOnBus second).selectBank bank).cartridge := by
  have hmemory := SystemBus.memory_powerOnBus hboot hcartridge
  cases hc₁ : first.cartridge with
  | none =>
    have hc₂ : second.cartridge = none := by
      rw [hc₁] at hcartridge
      exact Option.map_eq_none_iff.1 hcartridge.symm
    rw [SystemBus.selectBank_of_none ((cartridge_powerOnBus first).trans hc₁),
      SystemBus.selectBank_of_none ((cartridge_powerOnBus second).trans hc₂), cartridge_powerOnBus,
      cartridge_powerOnBus, hc₁, hc₂]
    exact ⟨hmemory, rfl⟩
  | some cartridge =>
    rw [hc₁] at hcartridge
    obtain ⟨other, hc₂, hother⟩ := Option.map_eq_some_iff.1 hcartridge.symm
    have hselect := Cartridge.selectBank_congr hother.symm (hfirst.bank_fits _ hc₁)
      (hsecond.bank_fits _ hc₂) (powerOnBus first).memory (hbank _ hc₁)
    rw [SystemBus.selectBank_eq ((cartridge_powerOnBus first).trans hc₁),
      SystemBus.selectBank_eq ((cartridge_powerOnBus second).trans hc₂), ← hmemory, hselect]
    exact ⟨rfl, rfl⟩

variable [DisplayChip μ] {config : Config}

/-- A reset and the parts of a state settle everything that two consoles need to go on alike. -/
theorem sameGame_restore {first second : Console μ σ} (hfirst : first.Settled config)
    (hsecond : second.Settled config) (hboot : first.board.bus.boot = second.board.bus.boot)
    (hcartridge : first.cartridge?.map Cartridge.unbanked =
      second.cartridge?.map Cartridge.unbanked) (parts : SaveState.Parts)
    (hbank : ∀ cartridge ∈ first.cartridge?, cartridge.mapper.window?.isSome →
      cartridge.bankOffset parts.bank < cartridge.image.size) :
    SameGame ((first.resetFor true).restore parts) ((second.resetFor true).restore parts) := by
  obtain ⟨hmemory, hselected⟩ := selectBank_powerOnBus hfirst.coherent hsecond.coherent hboot
    hcartridge hbank
  have htiming : timingFor first.config first.cartridge? =
      timingFor second.config second.cartridge? := by
    rw [← timingFor_unbanked, hcartridge, timingFor_unbanked, hfirst.config_eq, hsecond.config_eq]
  have hcontrols : ∀ timing, controlsFor timing first.cartridge? =
      controlsFor timing second.cartridge? := by
    intro timing
    rw [← controlsFor_unbanked, hcartridge, controlsFor_unbanked]
  have hexpansion : first.board.bus.cartridge.any (·.expansion) =
      second.board.bus.cartridge.any (·.expansion) := by
    rw [← any_expansion_unbanked, show first.board.bus.cartridge.map Cartridge.unbanked =
      second.board.bus.cartridge.map Cartridge.unbanked from hcartridge, any_expansion_unbanked]
  rw [restore_eq, restore_eq, resetFor_eq hfirst.highScore_eq, resetFor_eq hsecond.highScore_eq,
    htiming, hcontrols]
  refine ⟨rfl, rfl, ?_, hselected, ?_, ?_, rfl, rfl⟩
  · exact congrArg parts.onMemory hmemory
  · refine SaveState.unplugged_onRiot parts ?_
    rw [powerOnBus_eq, powerOnBus_eq second.board.bus]
    rfl
  · refine congrArg parts.onModule ?_
    rw [powerOnBus_eq, powerOnBus_eq second.board.bus]
    simp only [hexpansion]

/-- Of two consoles with the same cartridge, one loads what the other one loads, and they go on
alike, whatever was done to them before. -/
theorem loadState_forgets {first second : Console μ σ} (hfirst : Reachable config first)
    (hsecond : Reachable config second) (hboot : first.board.bus.boot = second.board.bus.boot)
    (hcartridge : first.cartridge?.map Cartridge.unbanked =
      second.cartridge?.map Cartridge.unbanked)
    {data : Bytes} (haccepted : (first.loadState data).1 = .ok ())
    (hbank : ∀ cartridge ∈ first.cartridge?, cartridge.mapper.window?.isSome →
      cartridge.bankOffset (data.getD SaveState.bankStart 0) < cartridge.image.size) :
    (second.loadState data).1 = .ok () ∧
      SameGame (first.loadState data).2 (second.loadState data).2 := by
  cases hparse : SaveState.parse data first.cartridge? with
  | error error => simp [loadState, hparse] at haccepted
  | ok parts =>
    have hparse' : SaveState.parse data second.cartridge? = .ok parts := by
      rw [← SaveState.parse_unbanked, ← hcartridge, SaveState.parse_unbanked, hparse]
    rw [← SaveState.bank_of_parse hparse] at hbank
    simp only [loadState, hparse, hparse']
    exact ⟨trivial, sameGame_restore hfirst.settled hsecond.settled hboot hcartridge parts hbank⟩

theorem plugged_write (console : Console μ σ) (address : UInt16) (value : UInt8) :
    (console.perform (.write address value)).board.bus.boot = console.board.bus.boot ∧
      (console.perform (.write address value)).cartridge?.map Cartridge.unbanked =
        console.cartridge?.map Cartridge.unbanked :=
  (console.board.bus.evolves_write address value).plugged

/-- A state of the blank console, loaded by it and by one on which a program has stored a byte. -/
theorem loadState_forgets_blankConsole :
    let data := blankConsole.saveState
    let other := blankConsole.perform (.write 0x1800 7)
    other.board.bus.boot = blankConsole.board.bus.boot ∧
      (blankConsole.loadState data).1 = .ok () ∧ (other.loadState data).1 = .ok () ∧
      SameGame (blankConsole.loadState data).2 (other.loadState data).2 := by
  obtain ⟨hboot, hcartridge⟩ := blankConsole.plugged_write 0x1800 7
  have haccepted : (blankConsole.loadState blankConsole.saveState).1 = .ok () := by
    rw [loadState_saveState reachable_blankConsole.settled cartridge?_blankConsole]
  refine ⟨hboot, haccepted, loadState_forgets reachable_blankConsole
    (.act reachable_blankConsole (.write 0x1800 7)) hboot.symm hcartridge.symm haccepted ?_⟩
  intro cartridge hmem hwindow
  rw [cartridge?_blankConsole] at hmem
  obtain rfl := Option.some.inj hmem
  cases hwindow

end Console
end Console7800
