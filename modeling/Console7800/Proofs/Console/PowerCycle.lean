import Console7800.Proofs.Console.Sessions
import Console7800.Proofs.SaveState.Mapping

/-!
# A reset is a power cycle, but for the recorded bank

A reset forgets whatever was done since the cartridge was put in: it leaves the console as putting
the same cartridge into a new one does, with the counts, the queue and the levels on the pins that a
reset is to keep (`reset_powerCycle`). The one thing more that it keeps is the record of the bank
that was selected last, while the window goes back to where it was. So the two consoles go on alike
exactly if that record is of bank 0.
-/

namespace Console7800

/-- The action leaves alone what is plugged in and how the console is set up. -/
def Action.Plays : Action → Prop
  | .setBoot _ | .setDatabase _ | .loadCartridge _ | .release => False
  | _ => True

namespace Console

variable {μ σ : Type}

/-- A new console, set up, with everything but a cartridge plugged in. -/
def equipped (config : Config) (database : Option Database) (boot : Option BootRom)
    (cart : Option HighScoreCart) (display : μ) (tia pokey : σ) : Console μ σ :=
  { (fresh config display tia pokey).setBoot boot with database, highScore := cart }

/-- The bank that was selected last, or the first one. -/
def recordedBank (console : Console μ σ) : UInt8 := console.cartridge?.elim 0 (·.bank)

/-- Consoles that are set up alike, with the same things plugged in. -/
structure SamePlugs (first second : Console μ σ) : Prop where
  config : first.config = second.config
  database : first.database = second.database
  highScore : first.highScore = second.highScore
  boot : first.board.bus.boot = second.board.bus.boot
  cartridge : first.cartridge?.map Cartridge.unbanked = second.cartridge?.map Cartridge.unbanked

namespace SamePlugs

variable {first second third : Console μ σ}

theorem refl (console : Console μ σ) : SamePlugs console console := ⟨rfl, rfl, rfl, rfl, rfl⟩

theorem symm (h : SamePlugs first second) : SamePlugs second first :=
  ⟨h.config.symm, h.database.symm, h.highScore.symm, h.boot.symm, h.cartridge.symm⟩

theorem trans (h₁ : SamePlugs first second) (h₂ : SamePlugs second third) :
    SamePlugs first third :=
  ⟨h₁.config.trans h₂.config, h₁.database.trans h₂.database, h₁.highScore.trans h₂.highScore,
    h₁.boot.trans h₂.boot, h₁.cartridge.trans h₂.cartridge⟩

theorem timingFor (h : SamePlugs first second) (config : Config) :
    timingFor config first.cartridge? = timingFor config second.cartridge? := by
  rw [← timingFor_unbanked, h.cartridge, timingFor_unbanked]

theorem controlsFor (h : SamePlugs first second) (timing : Timing) :
    controlsFor timing first.cartridge? = controlsFor timing second.cartridge? := by
  rw [← controlsFor_unbanked, h.cartridge, controlsFor_unbanked]

theorem any (h : SamePlugs first second) {p : Cartridge → Bool}
    (hp : ∀ cartridge : Cartridge, p cartridge.unbanked = p cartridge) :
    first.board.bus.cartridge.any p = second.board.bus.cartridge.any p := by
  have hmap (cartridge : Option Cartridge) :
      (cartridge.map Cartridge.unbanked).any p = cartridge.any p := by
    cases cartridge with
    | none => rfl
    | some cartridge => exact hp cartridge
  rw [← hmap, ← hmap second.board.bus.cartridge]
  exact congrArg (Option.any p) h.cartridge

/-- The bank that is recorded on a console makes its cartridge of one that is the same otherwise. -/
theorem cartridge_eq (h : SamePlugs first second) :
    second.board.bus.cartridge.map ({ · with bank := first.recordedBank }) =
      first.board.bus.cartridge := by
  have hcartridge := h.cartridge
  unfold recordedBank
  unfold cartridge? at hcartridge ⊢
  cases hfirst : first.board.bus.cartridge with
  | none =>
    rw [hfirst] at hcartridge
    rw [Option.map_eq_none_iff.1 hcartridge.symm]
    rfl
  | some cartridge =>
    rw [hfirst] at hcartridge
    obtain ⟨other, hsecond, hother⟩ := Option.map_eq_some_iff.1 hcartridge.symm
    rw [hsecond]
    exact congrArg some (Cartridge.bank_eq_of_unbanked hother).symm

theorem mountedCart? (h : SamePlugs first second) (loadingState : Bool) (timing : Timing) :
    first.mountedCart? loadingState timing = second.mountedCart? loadingState timing := by
  rw [Console.mountedCart?, Console.mountedCart?, h.config, h.highScore]

end SamePlugs

variable [SoundChip σ] [DisplayChip μ]

/-- What actions make of a console whose cartridge stays in. -/
inductive Played (start : Console μ σ) : Console μ σ → Prop where
  | start : Played start start
  | act {console : Console μ σ} (h : Played start console) {action : Action}
    (hplays : action.Plays) : Played start (console.perform action)

/-- `other` with what a reset of `past` is to keep, and with the bank that is recorded there. -/
def keeping (other past : Console μ σ) : Console μ σ :=
  { other with
    board := {
      cpu := { other.board.cpu with
        highScoreEntered := past.board.cpu.highScoreEntered
        opcode := past.board.cpu.opcode
        instructions := past.board.cpu.instructions }
      bus := { other.board.bus with
        riot := { other.board.bus.riot with
          pinsA := {
            other.board.bus.riot.pinsA with external := past.board.bus.riot.pinsA.external }
          pinsB := {
            other.board.bus.riot.pinsB with external := past.board.bus.riot.pinsB.external } }
        tia := SoundChip.reset past.board.bus.tia
        pokey := SoundChip.reset past.board.bus.pokey
        cartridge := other.board.bus.cartridge.map ({ · with bank := past.recordedBank }) }
      display := DisplayChip.reset past.board.display
      scheduler := other.board.scheduler }
    lightgun := past.lightgun
    queue := past.queue
    frames := past.frames }

/-! ## Resets of two consoles -/

section

variable {first second : Console μ σ}

/-- What is in memory after a reset. -/
def resetMemory (console : Console μ σ) : Memory :=
  console.mountedMemory false (powerOnBus console.board.bus).memory

omit [DisplayChip μ] in
theorem SamePlugs.resetMemory (h : SamePlugs first second) :
    first.resetMemory = second.resetMemory := by
  unfold Console.resetMemory mountedMemory
  rw [SystemBus.memory_powerOnBus h.boot h.cartridge, h.timingFor, h.mountedCart?, h.config]

theorem reset_eq {console : Console μ σ} (hfits : ∀ cart ∈ console.highScore, cart.Fits) :
    console.reset =
      let timing := timingFor console.config console.cartridge?
      { console with
        board := {
          cpu := console.board.cpu.restarted console.resetMemory
          bus := { powerOnBus console.board.bus with memory := console.resetMemory }
          display := DisplayChip.reset console.board.display
          scheduler := { timing, cycles := Cpu.resetCycles } }
        highScoreMounted := (console.mountedCart? false timing).isSome
        controls := controlsFor timing console.cartridge? } := by
  rw [reset, resetFor_eq_start, startBus_eq hfits]
  dsimp only [SystemBus.mapMemory]
  rw [cartridge_powerOnBus]
  rfl

theorem reset_eq_keeping (h : SamePlugs first second)
    (hfits : ∀ cart ∈ first.highScore, cart.Fits) : first.reset = second.reset.keeping first := by
  have hfits' : ∀ cart ∈ second.highScore, cart.Fits := h.highScore ▸ hfits
  have hexpansion := h.any (p := (·.expansion)) fun _ => rfl
  have hdisable := h.any (p := (·.disableBios)) fun _ => rfl
  rw [reset_eq hfits, reset_eq hfits', powerOnBus_eq, powerOnBus_eq second.board.bus]
  simp only [keeping, h.cartridge_eq, ← h.timingFor, ← h.resetMemory, ← h.mountedCart?,
    ← h.controlsFor, ← h.config, ← h.database, ← h.highScore, ← h.boot, ← hexpansion, ← hdisable]
  rfl

end

/-! ## Actions that leave the plugs alone -/

theorem samePlugs_runFrameWith (console : Console μ σ) (controls : Controls) :
    SamePlugs console (console.runFrameWith controls) := by
  obtain ⟨hboot, hcartridge⟩ := (console.evolves_runFrameWith controls).plugged
  exact ⟨rfl, rfl, rfl, hboot.symm, hcartridge.symm⟩

theorem samePlugs_runFramesWith (controls : Controls) (count : Nat) (console : Console μ σ) :
    SamePlugs console (runFramesWith controls count console) := by
  induction count generalizing console with
  | zero => exact .refl console
  | succ count ih => exact (console.samePlugs_runFrameWith controls).trans (ih _)

theorem samePlugs_resetFor (console : Console μ σ) (loadingState : Bool) :
    SamePlugs console (console.resetFor loadingState) := by
  obtain ⟨hboot, hcartridge⟩ := console.plugged_startBus loadingState
  rw [resetFor_eq_start]
  exact ⟨rfl, rfl, rfl, hboot.symm, hcartridge.symm⟩

theorem samePlugs_restore (console : Console μ σ) (parts : SaveState.Parts) :
    SamePlugs console (console.restore parts) := by
  rw [restore_eq]
  exact ⟨rfl, rfl, rfl, rfl, (console.board.bus.unbanked_selectBank parts.bank).symm⟩

theorem samePlugs_loadState (console : Console μ σ) (data : Bytes) :
    SamePlugs console (console.loadState data).2 := by
  unfold loadState
  split
  · exact .refl console
  · exact (console.samePlugs_resetFor true).trans (samePlugs_restore _ _)

theorem samePlugs_perform (console : Console μ σ) {action : Action} (h : action.Plays) :
    SamePlugs console (console.perform action) := by
  cases action with
  | setBoot | setDatabase | loadCartridge | release => exact absurd h id
  | setControls | setQueue | aim => exact ⟨rfl, rfl, rfl, rfl, rfl⟩
  | reset => exact console.samePlugs_resetFor false
  | runFrame =>
    have hsampled : SamePlugs console { console with
        queue := (console.queue.process console.frames console.controls).1
        controls := (console.queue.process console.frames console.controls).2 } :=
      ⟨rfl, rfl, rfl, rfl, rfl⟩
    exact hsampled.trans (samePlugs_runFrameWith _ _)
  | runFrameWith controls => exact console.samePlugs_runFrameWith controls
  | read address =>
    obtain ⟨hboot, hcartridge⟩ := (console.board.bus.evolves_read address).plugged
    exact ⟨rfl, rfl, rfl, hboot.symm, hcartridge.symm⟩
  | write address value =>
    obtain ⟨hboot, hcartridge⟩ := console.plugged_write address value
    exact ⟨rfl, rfl, rfl, hboot.symm, hcartridge.symm⟩
  | loadState data => exact console.samePlugs_loadState data
  | loadStateWarm data =>
    unfold perform loadStateWarm
    dsimp only
    split
    · exact .refl console
    · exact (samePlugs_runFramesWith _ _ console).trans (samePlugs_loadState _ data)

theorem Played.samePlugs {start console : Console μ σ} (h : Played start console) :
    SamePlugs start console := by
  induction h with
  | start => exact .refl start
  | act _ hplays ih => exact ih.trans (samePlugs_perform _ hplays)

/-! ## The power cycle -/

theorem cartridge?_reset_mounting {console : Console μ σ} (cartridge : Cartridge)
    (hfits : ∀ cart ∈ console.highScore, cart.Fits) :
    (console.mounting cartridge).reset.cartridge? = some (console.configured cartridge) := by
  have hfits' : ∀ cart ∈ (console.mounting cartridge).highScore, cart.Fits := hfits
  rw [reset_eq hfits', cartridge?]
  exact cartridge_powerOnBus _

/-- What a reset keeps leaves the game alone, the recorded bank excepted. -/
theorem sameGame_keeping_iff {other past : Console μ σ} {cartridge : Cartridge}
    (hother : other.cartridge? = some cartridge) :
    SameGame (other.keeping past) other ↔ past.recordedBank = cartridge.bank := by
  have hkept : (other.keeping past).cartridge? =
      some { cartridge with bank := past.recordedBank } := by
    unfold cartridge? at hother
    rw [cartridge?, keeping]
    simp only [hother]
    rfl
  constructor
  · intro h
    have hsame := h.cartridge
    rw [hkept, hother] at hsame
    exact congrArg Cartridge.bank (Option.some.inj hsame)
  · intro h
    refine ⟨rfl, rfl, rfl, ?_, rfl, rfl, rfl, rfl⟩
    rw [hkept, hother, h]

variable {config : Config} {database : Option Database} {boot : Option BootRom}
  {cart : Option HighScoreCart} {file : Bytes} {cartridge : Cartridge}

/-- A console is reset on which a cartridge was put in and anything was done since. It is left as
a new console is with the same cartridge put in, but for what a reset is to keep and for the record
of the bank that was selected last; so it goes on like a new one exactly if that is the first. -/
theorem reset_powerCycle {display : μ} {tia pokey : σ} {console : Console μ σ} (display' : μ)
    (tia' pokey' : σ) (hload : Cartridge.load file = .ok cartridge)
    (hfits : ∀ plugged ∈ cart, plugged.Fits)
    (hplayed : Played
      ((equipped config database boot cart display tia pokey).loadCartridge file).2 console) :
    let other := ((equipped config database boot cart display' tia' pokey').loadCartridge file).2
    console.reset = other.keeping console ∧
      (SameGame console.reset other ↔ console.recordedBank = 0) := by
  intro other
  let new := (equipped config database boot cart display' tia' pokey').mounting cartridge
  have hother : other = new.reset := by
    show (loadCartridge _ file).2 = _
    rw [loadCartridge_eq hload]
  have hplugs : SamePlugs console new := by
    have hstart := hplayed.samePlugs
    rw [loadCartridge_eq hload] at hstart
    let old := (equipped config database boot cart display tia pokey).mounting cartridge
    exact ((samePlugs_resetFor old false).trans hstart).symm.trans ⟨rfl, rfl, rfl, rfl, rfl⟩
  have hreset : console.reset = other.keeping console := by
    rw [hother]
    exact reset_eq_keeping hplugs (hplugs.highScore ▸ hfits)
  refine ⟨hreset, ?_⟩
  rw [hreset, hother, sameGame_keeping_iff (cartridge?_reset_mounting cartridge hfits),
    bank_configured, bank_eq_of_load hload]

/-! ## A console after a switch -/

/-- The console with five banks, after a program has switched to the fourth one. -/
def switchedConsole : Console IdleDisplay SilentSound := banksConsole.perform (.write 0x8000 3)

theorem loadCartridge_banksFile :
    ((equipped {} none none none ({} : IdleDisplay) ({} : SilentSound) {}).loadCartridge
      banksFile).2 = banksConsole := by
  have hbare : equipped {} none none none ({} : IdleDisplay) ({} : SilentSound) {} =
      fresh {} {} {} {} := rfl
  rw [banksConsole, perform, hbare]

theorem cartridge?_switchedConsole :
    switchedConsole.cartridge? = some { banksCartridge with bank := 3 } := by
  have hc := cartridge?_banksConsole
  rw [cartridge?] at hc
  have hrom : banksConsole.board.bus.memory.isRom 0x8000 = true := by
    have hlaid : banksConsole.board.bus.Laid := Attainable.laid (.act (.fresh _ _ _ _) trivial)
    rw [(hlaid.mapped _ hc).isRom _ (by decide)]
    exact Cartridge.isRom_window ⟨by rw [size_banksCartridge]; decide, 0x8000, rfl, by decide⟩
  have hselected : banksCartridge.selectedBank? 0x8000 3 = some 3 := by
    have hcount : 3 < banksCartridge.image.size / Cartridge.bankSize := by
      rw [size_banksCartridge]
      decide
    unfold Cartridge.selectedBank?
    simp only [show banksCartridge.mapper = .supercart from rfl]
    exact if_pos ⟨by decide, by decide, hcount⟩
  have hselects : banksCartridge.Selects 3 :=
    Cartridge.selects_of_lt size_banksCartridge rfl (by decide)
  have hwritten : banksConsole.board.bus.romWrite 0x8000 3 =
      banksConsole.board.bus.selectBank 3 := by
    rw [SystemBus.romWrite_eq, hc, Option.bind_some, hselected]
  rw [switchedConsole, cartridge?, bus_perform_write, SystemBus.write_high _ (by decide) hrom,
    hwritten, SystemBus.selectBank_eq hc, Cartridge.selectBank_of_selects _ hselects]

/-- The bank is recorded, and a reset keeps the record. -/
theorem reset_powerCycle_switchedConsole :
    switchedConsole.recordedBank = 3 ∧
      switchedConsole.reset = banksConsole.keeping switchedConsole ∧
      ¬ SameGame switchedConsole.reset banksConsole := by
  have hbank : switchedConsole.recordedBank = 3 := by
    rw [recordedBank, cartridge?_switchedConsole]
    rfl
  have hplayed : Played ((equipped {} none none none ({} : IdleDisplay) ({} : SilentSound)
      {}).loadCartridge banksFile).2 switchedConsole := by
    rw [loadCartridge_banksFile]
    exact .act .start trivial
  have hcycle := reset_powerCycle {} {} {} load_banksFile (fun _ hmem => by cases hmem) hplayed
  rw [loadCartridge_banksFile] at hcycle
  refine ⟨hbank, hcycle.1, fun hsame => ?_⟩
  rw [hcycle.2.1 hsame] at hbank
  exact absurd hbank (by decide)

end Console
end Console7800
