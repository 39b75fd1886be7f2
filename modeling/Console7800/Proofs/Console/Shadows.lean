import Console7800.Proofs.Console.Playing
import Console7800.Proofs.SaveState.Reload
import Console7800.Proofs.SystemBus.Modest

/-!
# Shadows stay in step

The upper three quarters of page zero and of page one are seen again at $2000 higher. Only stores
and blocks of a state reach those addresses, as long as nothing is mapped that reaches below
cartridge space (`SystemBus.Modest`). A store keeps the two places alike (`Mirrored.store`), and a
state that was saved while they were alike puts them back alike (`Console.mirrored_saveState`). A
`Session` is what is done to one console from a reset on.
-/

namespace Console7800

namespace Memory

/-- Every shadow shows what it is the shadow of. -/
def Mirrored (memory : Memory) : Prop :=
  ∀ address, IsShadowed address → memory.read (address + 0x2000) = memory.read address

namespace Mirrored

variable {memory other : Memory}

theorem powerOn : Mirrored powerOn := fun _ _ => by rw [read_powerOn, read_powerOn]

/-- Shadowed addresses and their shadows are registers or RAM of the console. -/
theorem of_read (h : memory.Mirrored)
    (hsame : ∀ address : UInt16, 0x0040 ≤ address.toNat → address.toNat < cartridgeStart →
      other.read address = memory.read address) : other.Mirrored := by
  intro address hshadowed
  obtain ⟨hlow, hhigh, hshadow⟩ := hshadowed.toNat
  rw [hsame _ (by omega) (by rw [cartridgeStart]; omega),
    hsame _ hlow (by rw [cartridgeStart]; omega)]
  exact h address hshadowed

theorem of_sameUnder (h : memory.Mirrored) (hsame : other.SameUnder cartridgeStart memory) :
    other.Mirrored :=
  h.of_read fun address _ hlt => (hsame address hlt).1

theorem poke_register (h : memory.Mirrored) {register : UInt16} (value : UInt8)
    (hregister : register < 0x0040) : (memory.poke register value).Mirrored := by
  refine h.of_read fun address hlow _ => ?_
  rw [read_poke, if_neg]
  rintro rfl
  exact absurd (UInt16.lt_iff_toNat_lt.1 hregister) (Nat.not_lt.2 hlow)

/-- A store reaches a shadow exactly if it reaches what it is the shadow of. -/
theorem store (h : memory.Mirrored) (address : UInt16) (value : UInt8) :
    (memory.store address value).Mirrored := by
  intro shadowed hshadowed
  have hreached : address = shadowed + 0x2000 ∨ shadow? address = some (shadowed + 0x2000) ↔
      address = shadowed ∨ shadow? address = some shadowed := by
    rw [shadow?_comm address, shadow?_comm address, hshadowed.shadow?_eq,
      (shadow?_comm _ _).1 hshadowed.shadow?_eq, Option.some.injEq, Option.some.injEq, or_comm,
      eq_comm (a := shadowed), eq_comm (a := shadowed + 0x2000)]
  rw [read_store, read_store, h shadowed hshadowed]
  simp only [hreached]

end Mirrored
end Memory

/-! ## Modest machines -/

namespace SystemBus

variable {σ : Type}

/-- A modest machine with its shadows in step. -/
structure InStep (bus : SystemBus σ) : Prop where
  modest : bus.Modest
  mirrored : bus.memory.Mirrored

theorem Change.mirrored {bus after : SystemBus σ} (h : Change bus after) (hbus : bus.InStep) :
    after.memory.Mirrored := by
  obtain ⟨hmodest, hmirrored⟩ := hbus
  cases h with
  | tia | pokey | riot | moduleRam | moduleControl => exact hmirrored
  | latch value hregister => exact hmirrored.poke_register value hregister
  | @store address value => exact hmirrored.store address value
  | romWrite value => exact hmirrored.of_sameUnder (bus.sameUnder_romWrite _ value)
  | installCartridge => exact hmirrored.of_sameUnder hmodest.sameUnder_installCartridge
  | installBoot => exact hmirrored.of_sameUnder hmodest.sameUnder_installBoot

variable [SoundChip σ]

/-- Below cartridge space a modest machine starts with what is there at power-on. -/
theorem Modest.sameUnder_powerOnBus {bus : SystemBus σ} (h : bus.Modest) :
    (Console.powerOnBus bus).memory.SameUnder cartridgeStart .powerOn := by
  have hcartridge : (bus.cartridge.elim .powerOn (·.install .powerOn) : Memory).SameUnder
      cartridgeStart .powerOn := by
    cases hc : bus.cartridge with
    | none => exact .refl _ _
    | some cartridge => exact h.sameUnder_install hc _
  rw [memory_powerOnBus_eq]
  split
  · rename_i boot hboot
    split
    · exact hcartridge
    · exact h.sameUnder_boot hboot _
  · exact hcartridge

theorem Modest.powerOnBus {bus : SystemBus σ} (h : bus.Modest) :
    (Console.powerOnBus bus).Modest :=
  h.of_plugged (Console.boot_powerOnBus bus) (by rw [Console.cartridge_powerOnBus])

theorem Modest.inStep_powerOn {bus : SystemBus σ} (h : bus.Modest) :
    (Console.powerOnBus bus).InStep :=
  ⟨h.powerOnBus, Memory.Mirrored.powerOn.of_sameUnder h.sameUnder_powerOnBus⟩

end SystemBus

/-! ## States that keep shadows in step -/

namespace SaveState

/-- The RAM in a state has its shadows in step. -/
def Mirrored (data : Bytes) : Prop :=
  ∀ address, Memory.IsShadowed address →
    (block data ramStart ramSize).getD (address + 0x2000).toNat 0 =
      (block data ramStart ramSize).getD address.toNat 0

theorem Parts.read_onMemory_below (parts : Parts) (memory : Memory) {address : UInt16}
    (hsize : parts.ram.size = ramSize) (hlt : address.toNat < cartridgeStart) :
    (parts.onMemory memory).read address = parts.ram.getD address.toNat 0 := by
  have hram : (memory.load 0 parts.ram).read address = parts.ram.getD address.toNat 0 := by
    have hin : Memory.Within 0 parts.ram.size address := by
      rw [hsize]
      exact ⟨Nat.zero_le _, by simpa [ramSize, cartridgeStart] using hlt⟩
    rw [Memory.read_load, if_pos hin]
    rfl
  unfold onMemory
  split
  · rw [Memory.read_load, if_neg, hram]
    rintro ⟨habove, -⟩
    exact absurd hlt (Nat.not_lt.2 habove)
  · exact hram

theorem mirrored_onMemory {data : Bytes} {cartridge? : Option Cartridge} {parts : Parts}
    (hparse : parse data cartridge? = .ok parts) (h : Mirrored data) (memory : Memory) :
    (parts.onMemory memory).Mirrored := by
  have hsize := (whole_of_parse hparse).2.ram
  obtain ⟨cartridge, -, -, layout, -, rfl⟩ := parse_eq_ok_iff.1 hparse
  intro address hshadowed
  obtain ⟨hlow, hhigh, hshadow⟩ := hshadowed.toNat
  rw [Parts.read_onMemory_below _ _ hsize (by rw [cartridgeStart]; omega),
    Parts.read_onMemory_below _ _ hsize (by rw [cartridgeStart]; omega)]
  exact h address hshadowed

end SaveState

namespace Console

variable {μ σ : Type}

theorem block_ram_saveState {console : Console μ σ} (h : console.cartridge?.isSome) :
    SaveState.block console.saveState SaveState.ramStart SaveState.ramSize =
      console.board.bus.memory.slice 0 SaveState.ramSize := by
  obtain ⟨cartridge, hc⟩ := Option.isSome_iff_exists.1 h
  -- the RAM stands before what an expansion module adds, so whether there is one is no matter
  let equipped := { cartridge with expansion := console.board.bus.xm.isSome }
  have hfits : (SaveState.chainOf console.board equipped).Fits (SaveState.layoutOf equipped) :=
    SaveState.fits_chainOf rfl
  rw [saveState_eq hc]
  exact hfits.block_ram

theorem mirrored_saveState {console : Console μ σ} (h : console.board.bus.memory.Mirrored) :
    SaveState.Mirrored console.saveState := by
  cases hc : console.cartridge? with
  | none =>
    intro address _
    unfold saveState
    rw [hc]
    simp [SaveState.block]
  | some cartridge =>
    intro address hshadowed
    obtain ⟨hlow, hhigh, hshadow⟩ := hshadowed.toNat
    have hread (address : UInt16) (hlt : address.toNat < cartridgeStart) :
        (console.board.bus.memory.slice 0 SaveState.ramSize).getD address.toNat 0 =
          console.board.bus.memory.read address :=
      Memory.getD_slice _ ⟨Nat.zero_le _, by simpa [SaveState.ramSize, cartridgeStart] using hlt⟩
    rw [block_ram_saveState (by rw [hc]; rfl), hread _ (by rw [cartridgeStart]; omega),
      hread _ (by rw [cartridgeStart]; omega)]
    exact h address hshadowed

/-! ## Sessions with one console -/

variable [SoundChip σ]

theorem lasting_inStep :
    SystemBus.Lasting SaveState.Mirrored (SystemBus.InStep : SystemBus σ → Prop) where
  change h hbus := ⟨hbus.modest.of_plugged h.plugged.1 h.plugged.2, h.mirrored hbus⟩
  powerOn hbus := hbus.modest.inStep_powerOn
  restore {bus _ parts} hloadable hparse hbus :=
    ⟨hbus.modest.of_plugged rfl (bus.unbanked_selectBank parts.bank),
      SaveState.mirrored_onMemory hparse hloadable _⟩

variable [DisplayChip μ]

/-- What is done to a modest console from a reset on, with the states that were saved on the way.
Only those are loaded; what is plugged in stays modest. -/
inductive Session : List Bytes → Console μ σ → Prop where
  | reset {console : Console μ σ} (h : console.board.bus.Modest) : Session [] console.reset
  | act {saved : List Bytes} {console : Console μ σ} (h : Session saved console) {action : Action}
    (hloads : ∀ data ∈ action.state?, data ∈ saved)
    (hmodest : (console.perform action).board.bus.Modest) : Session saved (console.perform action)
  | save {saved : List Bytes} {console : Console μ σ} (h : Session saved console) :
    Session (console.saveState :: saved) console
  | plug {saved : List Bytes} {console : Console μ σ} (h : Session saved console)
    (cart : Option HighScoreCart) : Session saved { console with highScore := cart }

theorem inStep_resetFor {console : Console μ σ} (h : console.board.bus.Modest)
    (loadingState : Bool) : (console.resetFor loadingState).board.bus.InStep := by
  rw [bus_resetFor]
  exact lasting_inStep.evolves (console.evolves_startBus loadingState) h.inStep_powerOn

theorem mirrored_loadCartridge {console : Console μ σ} (h : console.board.bus.InStep) {data : Bytes}
    (hmodest : (console.loadCartridge data).2.board.bus.Modest) :
    (console.loadCartridge data).2.board.bus.memory.Mirrored := by
  cases hload : Cartridge.load data with
  | error error =>
    unfold loadCartridge
    simp only [hload]
    exact h.mirrored
  | ok cartridge =>
    -- what is mounted is known to be modest after the reset, and no reset changes the plugs
    rw [loadCartridge_eq hload] at hmodest ⊢
    have hplugs := (console.mounting cartridge).samePlugs_resetFor false
    exact (inStep_resetFor (hmodest.of_plugged hplugs.boot hplugs.cartridge) false).mirrored

theorem mirrored_perform {console : Console μ σ} (h : console.board.bus.InStep) {action : Action}
    (hloads : ∀ data ∈ action.state?, SaveState.Mirrored data)
    (hmodest : (console.perform action).board.bus.Modest) :
    (console.perform action).board.bus.memory.Mirrored := by
  have hplayed (hplays : action.Plays) : (console.perform action).board.bus.memory.Mirrored :=
    (lasting_inStep.perform h hplays hloads).mirrored
  cases action with
  | setBoot | setDatabase | release => exact h.mirrored
  | loadCartridge data => exact mirrored_loadCartridge h hmodest
  | setControls | setQueue | aim | reset | runFrame | runFrameWith | read | write | loadState
  | loadStateWarm => exact hplayed trivial

theorem Session.inStep {saved : List Bytes} {console : Console μ σ} (h : Session saved console) :
    console.board.bus.InStep ∧ ∀ data ∈ saved, SaveState.Mirrored data := by
  induction h with
  | reset h => exact ⟨inStep_resetFor h false, fun data hmem => by cases hmem⟩
  | act _ hloads hmodest ih =>
    obtain ⟨hbus, hsaved⟩ := ih
    have hmirrored :=
      mirrored_perform hbus (fun data hmem => hsaved data (hloads data hmem)) hmodest
    exact ⟨⟨hmodest, hmirrored⟩, hsaved⟩
  | save _ ih =>
    obtain ⟨hbus, hsaved⟩ := ih
    exact ⟨hbus, List.forall_mem_cons.2 ⟨mirrored_saveState hbus.mirrored, hsaved⟩⟩
  | plug _ _ ih => exact ih

theorem Session.play {saved : List Bytes} {console : Console μ σ} (h : Session saved console)
    (action : Action) (hplays : action.Plays) (hloads : ∀ data ∈ action.state?, data ∈ saved) :
    Session saved (console.perform action) :=
  have hplugs := console.samePlugs_perform hplays
  h.act hloads (h.inStep.1.modest.of_plugged hplugs.boot.symm hplugs.cartridge.symm)

/-- On a modest machine, from a reset on, every shadow shows what it is the shadow of. -/
theorem shadows_inStep {saved : List Bytes} {console : Console μ σ} (h : Session saved console)
    {address : UInt16} (hshadowed : Memory.IsShadowed address) :
    console.board.bus.memory.read (address + 0x2000) = console.board.bus.memory.read address :=
  h.inStep.1.mirrored address hshadowed

theorem exists_blankConsole_eq : ∃ console : Console IdleDisplay SilentSound,
    console.board.bus.Modest ∧ blankConsole = console.reset := by
  rw [blankConsole, perform, loadCartridge_eq load_blankFile]
  refine ⟨_, ⟨fun cartridge hmem _ => ?_, fun boot hmem => by cases hmem⟩, rfl⟩
  obtain rfl := Option.some.inj hmem
  exact Nat.le_trans (Nat.le_of_eq size_blankFile) (by decide)

theorem session_blankConsole : Session [] blankConsole := by
  obtain ⟨console, hmodest, hreset⟩ := exists_blankConsole_eq
  exact hreset ▸ .reset hmodest

/-- A byte is written, the state saved, a frame run, the byte's shadow written over, and the state
loaded again. -/
theorem shadows_inStep_blankConsole :
    let saved := blankConsole.perform (.write 0x0040 5)
    let after := ((saved.perform .runFrame).perform (.write 0x2040 7)).perform
      (.loadState saved.saveState)
    Memory.IsShadowed 0x0040 ∧ Session [saved.saveState] after ∧
      after.board.bus.memory.read (0x0040 + 0x2000) = after.board.bus.memory.read 0x0040 := by
  intro saved after
  have hshadowed : Memory.IsShadowed 0x0040 := .inl (by decide)
  have hsaved : Session [saved.saveState] saved :=
    (session_blankConsole.play (.write 0x0040 5) trivial fun data hmem => by cases hmem).save
  have hframe := hsaved.play .runFrame trivial fun data hmem => by cases hmem
  have hwritten := hframe.play (.write 0x2040 7) trivial fun data hmem => by cases hmem
  have hafter : Session [saved.saveState] after :=
    hwritten.play (.loadState saved.saveState) trivial fun data hmem => by
      obtain rfl := Option.some.inj hmem
      exact List.mem_singleton_self _
  exact ⟨hshadowed, hafter, shadows_inStep hafter hshadowed⟩

end Console
end Console7800
