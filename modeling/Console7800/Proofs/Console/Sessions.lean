import Console7800.Proofs.HighScore
import Console7800.Proofs.SaveState.Acceptance

/-!
# Sessions with a console

`Attainable` consoles are what any run of actions makes of a new one, high-score cartridges
included. `Handling` lists what actions do to the bus, one thing at a time: `handled_perform` takes
every action apart, so what each handling keeps holds of the bus of every attainable console
(`Attainable.keeps`).
-/

namespace Console7800

/-- A boot ROM that an action installs, or takes out, is among those that are allowed. -/
def Action.Allowed (boots : Option BootRom → Prop) : Action → Prop
  | .setBoot boot => boots boot
  | _ => True

variable {μ σ : Type} [SoundChip σ]

/-! ## What is done to the bus -/

namespace SystemBus

/-- What actions do to the bus of a console, with some boot ROMs allowed. -/
inductive Handling (boots : Option BootRom → Prop) : SystemBus σ → SystemBus σ → Prop where
  | change {bus after : SystemBus σ} (h : Change bus after) : Handling boots bus after
  | setBoot {bus : SystemBus σ} {boot : Option BootRom} (h : boots boot) :
    Handling boots bus { bus with boot }
  | release {bus : SystemBus σ} : Handling boots bus { bus with cartridge := none, xm := none }
  /-- A cartridge with its first bank selected is mounted, and the power is cycled. -/
  | mount {bus : SystemBus σ} {cartridge : Cartridge} (h : cartridge.bank = 0) :
    Handling boots bus (Console.powerOnBus { bus with cartridge := some cartridge })
  | powerOn {bus : SystemBus σ} : Handling boots bus (Console.powerOnBus bus)
  | restore {bus : SystemBus σ} {data : Bytes} {parts : SaveState.Parts}
    (h : SaveState.parse data bus.cartridge = .ok parts) : Handling boots bus (parts.onBus bus)

/-- Any number of handlings. -/
abbrev Handled (boots : Option BootRom → Prop) : SystemBus σ → SystemBus σ → Prop :=
  Relation.ReflTransGen (Handling boots)

variable {boots : Option BootRom → Prop}

theorem Evolves.handled {bus after : SystemBus σ} (h : Evolves bus after) :
    Handled boots bus after :=
  Relation.ReflTransGen.mono (fun _ _ => .change) _ _ h

theorem Handled.keeps {P : SystemBus σ → Prop}
    (hP : ∀ {bus after : SystemBus σ}, Handling boots bus after → P bus → P after)
    {bus after : SystemBus σ} (h : Handled boots bus after) (hbus : P bus) : P after := by
  induction h with
  | refl => exact hbus
  | tail _ hstep ih => exact hP hstep ih

end SystemBus

/-! ## What an action does to the bus -/

namespace Console

open SystemBus (Handled Handling)

/-- What a reset mounts, as a change of memory. -/
def mountedMemory (console : Console μ σ) (loadingState : Bool) (memory : Memory) : Memory :=
  match console.mountedCart? loadingState (timingFor console.config console.cartridge?) with
  | some cart => cart.onMemory memory
  | none => memory

omit [SoundChip σ] in
theorem mem_highScore_of_mounted {console : Console μ σ} {loadingState : Bool} {timing : Timing}
    {cart : HighScoreCart} (h : console.mountedCart? loadingState timing = some cart) :
    cart ∈ console.highScore := by
  unfold mountedCart? at h
  split at h
  · exact h
  · cases h

theorem startBus_eq {console : Console μ σ} (h : ∀ cart ∈ console.highScore, cart.Fits)
    (loadingState : Bool) :
    console.startBus loadingState =
      (powerOnBus console.board.bus).mapMemory (console.mountedMemory loadingState) := by
  unfold startBus mountedMemory
  cases hmounted : console.mountedCart? loadingState
      (timingFor console.config console.cartridge?) with
  | none => rfl
  | some cart => exact HighScoreCart.run_mount (h cart (mem_highScore_of_mounted hmounted)) _

omit [SoundChip σ] in
theorem isRom_mountedMemory (console : Console μ σ) (loadingState : Bool) (memory : Memory)
    (address : UInt16) :
    (console.mountedMemory loadingState memory).isRom address = memory.isRom address := by
  unfold mountedMemory
  split
  · exact HighScoreCart.isRom_onMemory ..
  · rfl

omit [SoundChip σ] in
theorem sameAbove_mountedMemory {console : Console μ σ}
    (h : ∀ cart ∈ console.highScore, cart.Fits) (loadingState : Bool) (memory : Memory) :
    (console.mountedMemory loadingState memory).SameAbove memory := by
  unfold mountedMemory
  split
  · rename_i cart hmounted
    exact HighScoreCart.sameAbove_onMemory (h cart (mem_highScore_of_mounted hmounted)) memory
  · exact .refl memory

/-- Whatever a reset mounts stays in console RAM. -/
theorem sameButRam_startBus {console : Console μ σ} (h : ∀ cart ∈ console.highScore, cart.Fits)
    (loadingState : Bool) :
    SystemBus.SameButRam (powerOnBus console.board.bus) (console.startBus loadingState) :=
  ⟨_, startBus_eq h loadingState, sameAbove_mountedMemory h loadingState _⟩

theorem plugged_startBus (console : Console μ σ) (loadingState : Bool) :
    (console.startBus loadingState).boot = console.board.bus.boot ∧
      (console.startBus loadingState).cartridge.map Cartridge.unbanked =
        console.cartridge?.map Cartridge.unbanked := by
  obtain ⟨hboot, hcartridge⟩ := (console.evolves_startBus loadingState).plugged
  rw [powerOnBus_eq] at hboot hcartridge
  exact ⟨hboot, hcartridge⟩

variable [DisplayChip μ] {boots : Option BootRom → Prop}

theorem bus_resetFor (console : Console μ σ) (loadingState : Bool) :
    (console.resetFor loadingState).board.bus = console.startBus loadingState := by
  rw [resetFor_eq_start]

theorem parse_resetFor (console : Console μ σ) (loadingState : Bool) (data : Bytes) :
    SaveState.parse data (console.resetFor loadingState).board.bus.cartridge =
      SaveState.parse data console.cartridge? := by
  rw [bus_resetFor, ← SaveState.parse_unbanked, (console.plugged_startBus loadingState).2,
    SaveState.parse_unbanked]

theorem handled_resetFor (console : Console μ σ) (loadingState : Bool) :
    Handled boots console.board.bus (console.resetFor loadingState).board.bus := by
  rw [bus_resetFor]
  exact .head .powerOn (console.evolves_startBus loadingState).handled

theorem handled_loadCartridge (console : Console μ σ) (data : Bytes) :
    Handled boots console.board.bus (console.loadCartridge data).2.board.bus := by
  have hrelease : Handled boots console.board.bus console.release.board.bus :=
    .single .release
  cases hload : Cartridge.load data with
  | error error =>
    unfold loadCartridge
    simp only [hload]
    exact hrelease
  | ok cartridge =>
    have hbank : (console.configured cartridge).bank = 0 := by
      rw [bank_configured, bank_eq_of_load hload]
    have hmount : Handled boots console.release.board.bus
        (console.mounting cartridge).reset.board.bus := by
      unfold reset
      rw [bus_resetFor]
      exact .head (.mount hbank) ((console.mounting cartridge).evolves_startBus false).handled
    rw [loadCartridge_eq hload]
    exact hrelease.trans hmount

theorem handled_runFrameWith (console : Console μ σ) (controls : Controls) :
    Handled boots console.board.bus (console.runFrameWith controls).board.bus :=
  (console.evolves_runFrameWith controls).handled

theorem handled_loadState (console : Console μ σ) (data : Bytes) :
    Handled boots console.board.bus (console.loadState data).2.board.bus := by
  unfold loadState
  split
  · exact .refl
  · rename_i parts hparse
    rw [restore_eq]
    exact (console.handled_resetFor true).tail (.restore (by rwa [parse_resetFor]))

/-- Every action is made of handlings of the bus. -/
theorem handled_perform (console : Console μ σ) {action : Action} (h : action.Allowed boots) :
    Handled boots console.board.bus (console.perform action).board.bus := by
  cases action with
  | setBoot boot => exact .single (.setBoot h)
  | setDatabase | setControls | setQueue | aim => exact .refl
  | loadCartridge data => exact console.handled_loadCartridge data
  | release => exact .single .release
  | reset => exact console.handled_resetFor false
  | runFrame => exact handled_runFrameWith _ _
  | runFrameWith controls => exact console.handled_runFrameWith controls
  | read address => exact (console.board.bus.evolves_read address).handled
  | write address value => exact (console.board.bus.evolves_write address value).handled
  | loadState data => exact console.handled_loadState data
  | loadStateWarm data =>
    unfold perform loadStateWarm
    dsimp only
    split
    · exact .refl
    · exact .trans (evolves_runFramesWith _ _ console).handled (handled_loadState _ data)

/-! ## Attainable consoles -/

/-- The consoles that actions and high-score cartridges make of a new one. -/
inductive Attainable (boots : Option BootRom → Prop) : Console μ σ → Prop where
  | fresh (config : Config) (display : μ) (tia pokey : σ) :
    Attainable boots (.fresh config display tia pokey)
  | act {console : Console μ σ} (h : Attainable boots console) {action : Action}
    (hallowed : action.Allowed boots) : Attainable boots (console.perform action)
  | plug {console : Console μ σ} (h : Attainable boots console) {cart : Option HighScoreCart}
    (hfits : ∀ plugged ∈ cart, plugged.Fits) : Attainable boots { console with highScore := cart }

variable {console : Console μ σ}

theorem Attainable.keeps {P : SystemBus σ → Prop} (hnew : ∀ tia pokey : σ, P { tia, pokey })
    (hP : ∀ {bus after : SystemBus σ}, Handling boots bus after → P bus → P after)
    (h : Attainable boots console) : P console.board.bus := by
  induction h with
  | fresh config display tia pokey => exact hnew tia pokey
  | act _ hallowed ih => exact (handled_perform _ hallowed).keeps hP ih
  | plug _ _ ih => exact ih

/-! No action touches the slot of the high-score cartridge. -/

theorem highScore_resetFor (console : Console μ σ) (loadingState : Bool) :
    (console.resetFor loadingState).highScore = console.highScore := by
  rw [resetFor_eq_start]

theorem highScore_runFramesWith (controls : Controls) (count : Nat) (console : Console μ σ) :
    (runFramesWith controls count console).highScore = console.highScore := by
  induction count generalizing console with
  | zero => rfl
  | succ count ih => exact ih _

theorem highScore_loadState (console : Console μ σ) (data : Bytes) :
    (console.loadState data).2.highScore = console.highScore := by
  unfold loadState
  split
  · rfl
  · rw [restore_eq]
    exact console.highScore_resetFor true

theorem highScore_perform (console : Console μ σ) (action : Action) :
    (console.perform action).highScore = console.highScore := by
  cases action with
  | setBoot | setDatabase | setControls | setQueue | aim | release | read | write => rfl
  | runFrame | runFrameWith => rfl
  | loadCartridge data =>
    unfold perform loadCartridge
    dsimp only
    split
    · rfl
    · exact highScore_resetFor _ false
  | reset => exact console.highScore_resetFor false
  | loadState data => exact console.highScore_loadState data
  | loadStateWarm data =>
    unfold perform loadStateWarm
    dsimp only
    split
    · rfl
    · exact (highScore_loadState _ data).trans (highScore_runFramesWith _ _ console)

theorem Attainable.fits (h : Attainable boots console) :
    ∀ cart ∈ console.highScore, cart.Fits := by
  induction h with
  | fresh => exact fun cart hmem => by cases hmem
  | act _ _ ih => rwa [highScore_perform]
  | plug _ hfits _ => exact hfits

theorem Attainable.sameButRam_startBus (h : Attainable boots console) (loadingState : Bool) :
    SystemBus.SameButRam (powerOnBus console.board.bus) (console.startBus loadingState) :=
  Console.sameButRam_startBus h.fits loadingState

theorem Reachable.attainable {config : Config} (h : Reachable config console) :
    Attainable (fun _ => True) console := by
  induction h with
  | fresh display tia pokey => exact .fresh config display tia pokey
  | act _ action ih => exact ih.act (by cases action <;> trivial)

end Console

theorem SystemBus.Handling.coherent {boots : Option BootRom → Prop} {bus after : SystemBus σ}
    (h : Handling boots bus after) (hbus : bus.Coherent) : after.Coherent := by
  cases h with
  | change h => exact h.coherent hbus
  | setBoot => exact ⟨hbus.module_isSome, hbus.prescaler_ne, hbus.bank_fits⟩
  | release => exact ⟨rfl, hbus.prescaler_ne, fun cartridge hmem => by cases hmem⟩
  | mount hbank =>
    refine Console.coherent_powerOnBus fun cartridge hmem _ => ?_
    obtain rfl := Option.some.inj hmem
    exact hbank
  | powerOn => exact Console.coherent_powerOnBus hbus.bank_fits
  | restore => exact SaveState.Parts.coherent_onBus _ hbus

theorem Console.Attainable.coherent {μ : Type} [DisplayChip μ] {boots : Option BootRom → Prop}
    {console : Console μ σ} (h : Attainable boots console) : console.board.bus.Coherent :=
  h.keeps (fun _ _ => ⟨rfl, show Timer.prescaler {} ≠ 0 by decide, fun _ hmem => by cases hmem⟩)
    SystemBus.Handling.coherent

end Console7800
