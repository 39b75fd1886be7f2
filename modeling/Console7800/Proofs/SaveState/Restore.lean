import Console7800.Proofs.SystemBus.Coherent
import Console7800.SaveState

/-!
# What restoring touches

The parts of a state reach the registers, the selected bank, memory, the pins and timer, and the
expansion module (`restore_eq`); everything else stays as the reset left it.
-/

namespace Console7800

theorem Riot.prescaler_restore (riot : Riot) (data : Bytes) :
    (riot.restore data).timer.prescaler ≠ 0 := by
  unfold restore
  dsimp only
  split
  · decide
  · assumption

namespace SaveState.Parts

variable {σ : Type}

/-- Memory with the blocks of a state in it. -/
def onMemory (parts : Parts) (memory : Memory) : Memory :=
  match parts.expansionRam with
  | some ram => (memory.load 0 parts.ram).load 0x4000 ram
  | none => memory.load 0 parts.ram

def onRiot (parts : Parts) (riot : Riot) : Riot :=
  match parts.riot with
  | some data => riot.restore data
  | none => riot

def onModule (parts : Parts) (xm : Option ExpansionModule) : Option ExpansionModule :=
  match parts.xm with
  | some data => xm.map (·.restore data)
  | none => xm

/-- The bus with the parts of a state on it. -/
def onBus (parts : Parts) (bus : SystemBus σ) : SystemBus σ :=
  let selected := bus.selectBank parts.bank
  { bus with
    memory := parts.onMemory selected.memory
    riot := parts.onRiot bus.riot
    cartridge := selected.cartridge
    xm := parts.onModule bus.xm }

theorem coherent_onBus (parts : Parts) {bus : SystemBus σ} (h : bus.Coherent) :
    (parts.onBus bus).Coherent := by
  obtain ⟨hmodule, -, hbank⟩ := h.selectBank parts.bank
  have hxm : (bus.selectBank parts.bank).xm = bus.xm := by
    unfold SystemBus.selectBank
    split <;> rfl
  refine ⟨?_, ?_, hbank⟩
  · rw [hxm] at hmodule
    rw [← show (bus.selectBank parts.bank).cartridge = (parts.onBus bus).cartridge from rfl,
      ← hmodule]
    unfold onBus onModule
    dsimp only
    split
    · exact Option.isSome_map
    · rfl
  · unfold onBus onRiot
    dsimp only
    split
    · exact Riot.prescaler_restore _ _
    · exact h.prescaler_ne

end SaveState.Parts

theorem Console.restore_eq {μ σ : Type} [SoundChip σ] [DisplayChip μ] (console : Console μ σ)
    (parts : SaveState.Parts) :
    console.restore parts =
      { console with
        board := { console.board with
          cpu := { console.board.cpu with registers := parts.registers }
          bus := parts.onBus console.board.bus } } := by
  obtain ⟨⟨cpu, ⟨memory, riot, tia, pokey, cartridge, xm, boot, bootEnabled⟩, display, scheduler⟩,
    lightgun, config, database, highScore, highScoreMounted, controls, queue, frames⟩ := console
  obtain ⟨registers, bank, ram, expansionRam, riotData, xmData⟩ := parts
  cases cartridge <;> cases expansionRam <;> cases riotData <;> cases xmData <;> rfl

end Console7800
