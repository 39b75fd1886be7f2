import Console7800.Console
import Console7800.Proofs.SystemBus.Coherent
import Console7800.Proofs.SystemBus.Decode

/-!
# What a reset leaves

Without a high-score cartridge a reset puts everything it touches where the configuration, the
cartridge and the boot ROM say (`resetFor_eq`): the processor only reads its reset vector, from
addresses that answer from memory.
-/

namespace Console7800

variable {μ σ : Type}

/-- The processor at the start of the program that the reset vector names. -/
def Cpu.restarted (cpu : Cpu) (memory : Memory) : Cpu :=
  { cpu with
    registers := {
      pc := wordOf (memory.read resetVector) (memory.read (resetVector + 1))
      p := { irqDisable := true, reserved := true, zero := true } }
    halfCycle := false }

theorem Cpu.run_reset [SoundChip σ] (cpu : Cpu) (bus : SystemBus σ) :
    cpu.reset.run bus = ((resetCycles, cpu.restarted bus.memory), bus) := by
  have hlow : Bus.read bus resetVector = (bus.memory.read resetVector, bus) :=
    bus.read_high (by decide)
  have hhigh : Bus.read bus (resetVector + 1) = (bus.memory.read (resetVector + 1), bus) :=
    bus.read_high (by decide)
  simp [reset, restart, restarted, clear, Access.getWord, Access.get, hlow, hhigh]

namespace SystemBus

theorem installAtPowerOn_eq (bus : SystemBus σ) :
    bus.installAtPowerOn = { bus with memory := bus.installAtPowerOn.memory } := by
  unfold installAtPowerOn installBoot installCartridge
  repeat' split
  all_goals rfl

variable [SoundChip σ]

/-- What is in memory at power-on: the boot ROM, if there is one and the cartridge lets it start, or
else the cartridge. -/
theorem memory_powerOnBus_eq (bus : SystemBus σ) :
    (Console.powerOnBus bus).memory =
      match bus.boot with
      | some boot =>
        if bus.cartridge.any (·.disableBios) then
          bus.cartridge.elim .powerOn (·.install .powerOn)
        else boot.install .powerOn
      | none => bus.cartridge.elim .powerOn (·.install .powerOn) := by
  unfold Console.powerOnBus Console.clearedBus installAtPowerOn installBoot installCartridge
  rcases bus.boot with _ | boot <;> rcases bus.cartridge with _ | cartridge
  · rfl
  · rfl
  · rfl
  · cases hdisable : cartridge.disableBios <;> simp [hdisable]

theorem memory_powerOnBus_of_no_boot {bus : SystemBus σ} {cartridge : Cartridge}
    (hboot : bus.boot = none) (hcartridge : bus.cartridge = some cartridge) :
    (Console.powerOnBus bus).memory = cartridge.install .powerOn := by
  rw [memory_powerOnBus_eq, hboot, hcartridge]
  rfl

theorem memory_powerOnBus {first second : SystemBus σ} (hboot : first.boot = second.boot)
    (hcartridge :
      first.cartridge.map Cartridge.unbanked = second.cartridge.map Cartridge.unbanked) :
    (Console.powerOnBus first).memory = (Console.powerOnBus second).memory := by
  have hunbanked (cartridge : Option Cartridge) :
      cartridge.any (·.disableBios) = (cartridge.map Cartridge.unbanked).any (·.disableBios) ∧
        cartridge.elim .powerOn (·.install .powerOn) =
          (cartridge.map Cartridge.unbanked).elim .powerOn (·.install .powerOn) := by
    cases cartridge <;> exact ⟨rfl, rfl⟩
  rw [memory_powerOnBus_eq, memory_powerOnBus_eq, hboot, (hunbanked first.cartridge).1,
    (hunbanked first.cartridge).2, (hunbanked second.cartridge).1, (hunbanked second.cartridge).2,
    hcartridge]

end SystemBus

namespace Console

variable [SoundChip σ]

theorem powerOnBus_eq (bus : SystemBus σ) :
    powerOnBus bus =
      { memory := (powerOnBus bus).memory
        riot := bus.riot.reset
        tia := SoundChip.reset bus.tia
        pokey := SoundChip.reset bus.pokey
        cartridge := bus.cartridge
        xm := if bus.cartridge.any (·.expansion) then some .powerOn else none
        boot := bus.boot
        bootEnabled := bus.boot.isSome && !bus.cartridge.any (·.disableBios) } :=
  SystemBus.installAtPowerOn_eq _

theorem cartridge_powerOnBus (bus : SystemBus σ) : (powerOnBus bus).cartridge = bus.cartridge := by
  rw [powerOnBus_eq]

theorem riot_powerOnBus (bus : SystemBus σ) : (powerOnBus bus).riot = bus.riot.reset := by
  rw [powerOnBus_eq]

theorem boot_powerOnBus (bus : SystemBus σ) : (powerOnBus bus).boot = bus.boot := by
  rw [powerOnBus_eq]

theorem xm_powerOnBus (bus : SystemBus σ) :
    (powerOnBus bus).xm = if bus.cartridge.any (·.expansion) then some .powerOn else none := by
  rw [powerOnBus_eq]

theorem coherent_powerOnBus {bus : SystemBus σ}
    (h : ∀ cartridge ∈ bus.cartridge, cartridge.BankFits) : (powerOnBus bus).Coherent := by
  rw [powerOnBus_eq]
  refine ⟨?_, show Timer.prescaler {} ≠ 0 by decide, h⟩
  cases bus.cartridge.any (·.expansion) <;> rfl

/-- The bus on which a reset starts the processor: as at power-on, with the high-score cartridge
written to it if the reset mounts one. -/
def startBus (console : Console μ σ) (loadingState : Bool) : SystemBus σ :=
  match console.mountedCart? loadingState (timingFor console.config console.cartridge?) with
  | some cart => (cart.mount.run (powerOnBus console.board.bus)).2
  | none => powerOnBus console.board.bus

theorem evolves_startBus (console : Console μ σ) (loadingState : Bool) :
    SystemBus.Evolves (powerOnBus console.board.bus) (console.startBus loadingState) := by
  unfold startBus
  split
  · exact SystemBus.evolves_run _ _
  · exact .refl

variable [DisplayChip μ]

theorem resetFor_eq_start (console : Console μ σ) (loadingState : Bool) :
    console.resetFor loadingState =
      let timing := timingFor console.config console.cartridge?
      { console with
        board := {
          cpu := console.board.cpu.restarted (console.startBus loadingState).memory
          bus := console.startBus loadingState
          display := DisplayChip.reset console.board.display
          scheduler := { timing, cycles := Cpu.resetCycles } }
        highScoreMounted := (console.mountedCart? loadingState timing).isSome
        controls := controlsFor timing (console.startBus loadingState).cartridge } := by
  unfold resetFor startOn
  simp only [Cpu.run_reset]
  rfl

/-- What a reset leaves where no high-score cartridge is installed. -/
theorem resetFor_eq {console : Console μ σ} (h : console.highScore = none) (loadingState : Bool) :
    console.resetFor loadingState =
      { console with
        board := {
          cpu := console.board.cpu.restarted (powerOnBus console.board.bus).memory
          bus := powerOnBus console.board.bus
          display := DisplayChip.reset console.board.display
          scheduler := {
            timing := timingFor console.config console.cartridge?
            cycles := Cpu.resetCycles } }
        highScoreMounted := false
        controls :=
          controlsFor (timingFor console.config console.cartridge?) console.cartridge? } := by
  have hmounted : ∀ timing, console.mountedCart? loadingState timing = none := by
    intro timing
    unfold mountedCart?
    rw [h]
    exact ite_self _
  have hstart : console.startBus loadingState = powerOnBus console.board.bus := by
    unfold startBus
    rw [hmounted]
  rw [resetFor_eq_start]
  dsimp only
  rw [hstart, hmounted, cartridge_powerOnBus]
  rfl

end Console
end Console7800
