import Console7800.Proofs.Board.Evolution
import Console7800.Proofs.Console.Reset
import Console7800.Proofs.SaveState.Restore

/-!
# Histories of a console

`Action` lists what can be done to a console without a high-score cartridge, and `Reachable` the
consoles that any run of actions makes of a new one. What they keep is in `Settled`: the
configuration, the empty socket and a coherent bus.
-/

namespace Console7800

/-- What can be done to a console. -/
inductive Action where
  | setBoot (boot : Option BootRom)
  | setDatabase (database : Option Database)
  | setControls (controls : Controls)
  | setQueue (queue : InputQueue)
  | aim (gun : Lightgun)
  | loadCartridge (data : Bytes)
  | release
  | reset
  | runFrame
  | runFrameWith (controls : Controls)
  | read (address : UInt16)
  | write (address : UInt16) (value : UInt8)
  | loadState (data : Bytes)
  | loadStateWarm (data : Bytes)

namespace Console

variable {μ σ : Type}

/-- A new console, with nothing mounted. -/
def fresh (config : Config) (display : μ) (tia pokey : σ) : Console μ σ where
  board := { bus := { tia, pokey }, display }
  config := config

/-- What actions keep. -/
structure Settled (config : Config) (console : Console μ σ) : Prop where
  config_eq : console.config = config
  highScore_eq : console.highScore = none
  coherent : console.board.bus.Coherent

theorem settled_fresh (config : Config) (display : μ) (tia pokey : σ) :
    (fresh config display tia pokey).Settled config where
  config_eq := rfl
  highScore_eq := rfl
  coherent := by
    refine ⟨rfl, show Timer.prescaler {} ≠ 0 by decide, fun cartridge hmem => ?_⟩
    cases hmem

theorem Settled.release {config : Config} {console : Console μ σ} (h : console.Settled config) :
    console.release.Settled config := by
  obtain ⟨hconfig, hhigh, hbus⟩ := h
  refine ⟨hconfig, hhigh, rfl, hbus.prescaler_ne, fun cartridge hmem => ?_⟩
  cases hmem

variable [SoundChip σ] [DisplayChip μ]

def perform (console : Console μ σ) : Action → Console μ σ
  | .setBoot boot => console.setBoot boot
  | .setDatabase database => { console with database }
  | .setControls controls => { console with controls }
  | .setQueue queue => { console with queue }
  | .aim gun => { console with lightgun := gun }
  | .loadCartridge data => (console.loadCartridge data).2
  | .release => console.release
  | .reset => console.reset
  | .runFrame => console.runFrame
  | .runFrameWith controls => console.runFrameWith controls
  | .read address => console.mapBus fun bus => (bus.read address).2
  | .write address value => console.mapBus (·.write address value)
  | .loadState data => (console.loadState data).2
  | .loadStateWarm data => (console.loadStateWarm data).2

theorem bus_perform_write (console : Console μ σ) (address : UInt16) (value : UInt8) :
    (console.perform (.write address value)).board.bus = console.board.bus.write address value :=
  rfl

/-- The consoles that actions make of a new one. -/
inductive Reachable (config : Config) : Console μ σ → Prop where
  | fresh (display : μ) (tia pokey : σ) : Reachable config (.fresh config display tia pokey)
  | act {console : Console μ σ} (h : Reachable config console) (action : Action) :
    Reachable config (console.perform action)

/-! ## What each action keeps -/

variable {config : Config} {console : Console μ σ}

theorem Settled.resetFor (h : console.Settled config) (loadingState : Bool) :
    (console.resetFor loadingState).Settled config := by
  rw [resetFor_eq h.highScore_eq]
  exact ⟨h.config_eq, h.highScore_eq, coherent_powerOnBus h.coherent.bank_fits⟩

/-- A cartridge with the settings that the console's database has for it. -/
def configured (console : Console μ σ) (cartridge : Cartridge) : Cartridge :=
  match console.database with
  | some database => (database.apply cartridge).2
  | none => cartridge

omit [SoundChip σ] [DisplayChip μ] in
theorem configured_eq (h : console.database = none) (cartridge : Cartridge) :
    console.configured cartridge = cartridge := by
  unfold configured
  rw [h]

/-- The console with a cartridge put in, before the reset. -/
def mounting (console : Console μ σ) (cartridge : Cartridge) : Console μ σ :=
  console.release.mapBus ({ · with cartridge := some (console.configured cartridge) })

theorem loadCartridge_eq {data : Bytes} {cartridge : Cartridge}
    (h : Cartridge.load data = .ok cartridge) :
    console.loadCartridge data = (.ok (), (console.mounting cartridge).reset) := by
  unfold Console.loadCartridge
  simp only [h]
  rfl

theorem bus_loadCartridge {data : Bytes} {cartridge : Cartridge}
    (h : console.highScore = none) (hload : Cartridge.load data = .ok cartridge) :
    (console.loadCartridge data).2.board.bus =
      powerOnBus { console.board.bus with
        cartridge := some (console.configured cartridge), xm := none } := by
  rw [loadCartridge_eq hload]
  unfold Console.reset
  rw [resetFor_eq (by exact h)]
  rfl

theorem bus_perform_loadCartridge {data : Bytes} {cartridge : Cartridge}
    (hhigh : console.highScore = none) (hdatabase : console.database = none)
    (hload : Cartridge.load data = .ok cartridge) :
    (console.perform (.loadCartridge data)).board.bus =
      powerOnBus { console.board.bus with cartridge := some cartridge, xm := none } := by
  rw [perform, bus_loadCartridge hhigh hload, configured_eq hdatabase]

theorem cartridge?_loadCartridge {data : Bytes} {cartridge : Cartridge}
    (h : console.highScore = none) (hload : Cartridge.load data = .ok cartridge) :
    (console.loadCartridge data).2.cartridge? = some (console.configured cartridge) := by
  rw [cartridge?, bus_loadCartridge h hload]
  exact cartridge_powerOnBus _

/-- A file's cartridge has its first bank selected, and a database entry does not select another. -/
theorem bank_eq_of_load {data : Bytes} {cartridge : Cartridge}
    (h : Cartridge.load data = .ok cartridge) : cartridge.bank = 0 := by
  unfold Cartridge.load at h
  dsimp only at h
  split at h
  · cases h
  · split at h
    · cases h
    · split at h
      · split at h
        · cases h
        · rw [← Except.ok.inj h]
          rfl
      · rw [← Except.ok.inj h]
        rfl

theorem bank_apply (database : Database) (cartridge : Cartridge) :
    (database.apply cartridge).2.bank = cartridge.bank := by
  unfold Database.apply
  split <;> rfl

omit [SoundChip σ] [DisplayChip μ] in
theorem bank_configured (console : Console μ σ) (cartridge : Cartridge) :
    (console.configured cartridge).bank = cartridge.bank := by
  unfold configured
  split
  · exact bank_apply _ _
  · rfl

theorem Settled.mount (h : console.Settled config) {cartridge : Cartridge}
    (hbank : cartridge.bank = 0) :
    (console.mapBus ({ · with cartridge := some cartridge })).reset.Settled config := by
  unfold Console.reset
  rw [resetFor_eq (by exact h.highScore_eq)]
  refine ⟨h.config_eq, h.highScore_eq, coherent_powerOnBus fun other hmem _ => ?_⟩
  obtain rfl : cartridge = other := Option.some.inj hmem
  exact hbank

theorem Settled.loadCartridge (h : console.Settled config) (data : Bytes) :
    (console.loadCartridge data).2.Settled config := by
  cases hload : Cartridge.load data with
  | error error =>
    unfold Console.loadCartridge
    simp only [hload]
    exact h.release
  | ok cartridge =>
    rw [loadCartridge_eq hload]
    exact h.release.mount (by rw [bank_configured, bank_eq_of_load hload])

theorem runFrameWith_eq (console : Console μ σ) (controls : Controls) :
    console.runFrameWith controls =
      { console with
        board := (console.board.mapBus (·.driven controls)).runFrame console.lightgun
        frames := console.frames + 1 } := rfl

theorem evolves_runFrameWith (console : Console μ σ) (controls : Controls) :
    SystemBus.Evolves console.board.bus (console.runFrameWith controls).board.bus := by
  rw [runFrameWith_eq]
  exact (console.board.bus.evolves_driven controls).trans
    (Board.evolves_runFrame (console.board.mapBus (·.driven controls)) console.lightgun)

theorem Settled.runFrameWith (h : console.Settled config) (controls : Controls) :
    (console.runFrameWith controls).Settled config :=
  ⟨h.config_eq, h.highScore_eq, (console.evolves_runFrameWith controls).coherent h.coherent⟩

theorem Settled.runFramesWith (h : console.Settled config) (controls : Controls) (count : Nat) :
    (runFramesWith controls count console).Settled config := by
  induction count generalizing console with
  | zero => exact h
  | succ count ih => exact ih (h.runFrameWith controls)

theorem Settled.restore (h : console.Settled config) (parts : SaveState.Parts) :
    (console.restore parts).Settled config := by
  rw [restore_eq]
  exact ⟨h.config_eq, h.highScore_eq, parts.coherent_onBus h.coherent⟩

theorem Settled.loadState (h : console.Settled config) (data : Bytes) :
    (console.loadState data).2.Settled config := by
  unfold Console.loadState
  split
  · exact h
  · exact (h.resetFor true).restore _

theorem Settled.loadStateWarm (h : console.Settled config) (data : Bytes) :
    (console.loadStateWarm data).2.Settled config := by
  unfold Console.loadStateWarm
  split
  · exact h
  · exact (h.runFramesWith _ _).loadState data

theorem Settled.perform (h : console.Settled config) (action : Action) :
    (console.perform action).Settled config := by
  cases action with
  | setBoot | setDatabase | setControls | setQueue | aim =>
    exact ⟨h.config_eq, h.highScore_eq, h.coherent.1, h.coherent.2, h.coherent.3⟩
  | loadCartridge data => exact h.loadCartridge data
  | release => exact h.release
  | reset => exact h.resetFor false
  | runFrame =>
    have hsampled : Settled config { console with
        queue := (console.queue.process console.frames console.controls).1
        controls := (console.queue.process console.frames console.controls).2 } :=
      ⟨h.config_eq, h.highScore_eq, h.coherent⟩
    exact hsampled.runFrameWith _
  | runFrameWith controls => exact h.runFrameWith controls
  | read address =>
    exact ⟨h.config_eq, h.highScore_eq, (SystemBus.evolves_read _ address).coherent h.coherent⟩
  | write address value =>
    exact ⟨h.config_eq, h.highScore_eq,
      (SystemBus.evolves_write _ address value).coherent h.coherent⟩
  | loadState data => exact h.loadState data
  | loadStateWarm data => exact h.loadStateWarm data

theorem Reachable.settled (h : Reachable config console) : console.Settled config := by
  induction h with
  | fresh display tia pokey => exact settled_fresh config display tia pokey
  | act _ action ih => exact ih.perform action

/-! ## A small history -/

/-- A file that starts with one byte over and over has no header, so its size says what it is. -/
theorem load_headless {data : Bytes} {byte : UInt8} (hsize : Cartridge.headerSize < data.size)
    (hstart : data.extract 1 10 = .replicate 9 byte) (hbyte : byte ≠ 0x3E) :
    Cartridge.load data = .ok { Cartridge.ofImage data with mapper := .ofSize data.size } := by
  have hfirst : data.extract 1 3 = .replicate 2 byte := by
    have hcut : (data.extract 1 10).extract 0 2 = data.extract 1 3 := by
      rw [Array.extract_extract]
      rfl
    rw [← hcut, hstart, Array.extract_replicate]
    rfl
  have hhack : Array.replicate 2 byte ≠ Text.asciiBytes ">>" := fun h =>
    hbyte (congrArg (·.getD 0 0) h)
  have hsignature : Array.replicate 9 byte ≠ Cartridge.signature := fun h => by
    have hfirst : byte = 0x41 := congrArg (·.getD 0 0) h
    have hsecond : byte = 0x54 := congrArg (·.getD 1 0) h
    rw [hfirst] at hsecond
    exact absurd hsecond (by decide)
  unfold Cartridge.load
  rw [if_neg (Nat.not_le.2 hsize), hfirst, if_neg hhack, hstart, if_neg hsignature]

theorem load_replicate {count : Nat} {byte : UInt8} (hcount : Cartridge.headerSize < count)
    (hbyte : byte ≠ 0x3E) :
    Cartridge.load (.replicate count byte) =
      .ok { Cartridge.ofImage (.replicate count byte) with mapper := .ofSize count } := by
  have hstart : (Array.replicate count byte).extract 1 10 = .replicate 9 byte := by
    rw [Array.extract_replicate, Nat.min_eq_left (Nat.le_trans (by decide) (Nat.le_of_lt hcount))]
  rw [load_headless (by rwa [Array.size_replicate]) hstart hbyte, Array.size_replicate]

/-- The smallest file that is a cartridge. -/
def blankFile : Bytes := .replicate 129 0

theorem size_blankFile : blankFile.size = 129 := Array.size_replicate

theorem load_blankFile :
    Cartridge.load blankFile = .ok { Cartridge.ofImage blankFile with mapper := .normal } :=
  load_replicate (by decide) (by decide)

/-- A console with a blank cartridge. -/
def blankConsole : Console IdleDisplay SilentSound :=
  (fresh {} {} {} {}).perform (.loadCartridge blankFile)

theorem reachable_blankConsole : Reachable {} blankConsole :=
  .act (.fresh _ _ _) _

theorem cartridge?_blankConsole :
    blankConsole.cartridge? = some { Cartridge.ofImage blankFile with mapper := .normal } :=
  cartridge?_loadCartridge rfl load_blankFile

theorem bus_blankConsole :
    blankConsole.board.bus =
      powerOnBus { (fresh {} {} {} {} : Console IdleDisplay SilentSound).board.bus with
        cartridge := some { Cartridge.ofImage blankFile with mapper := .normal }, xm := none } := by
  rw [blankConsole, bus_perform_loadCartridge rfl rfl load_blankFile]

end Console
end Console7800
