import Console7800.Proofs.Console.History
import Console7800.Proofs.SaveState.Format

/-!
# Saving, loading and saving again

Each block of a state, put back over whatever a reset leaves, is saved as the same bytes: RAM by
where the blocks lie, the timer because its prescaler is never zero, the expansion module because
its snapshot is all there is to it, and the bank because selecting it or not leaves the same number.
-/

namespace Console7800

namespace Memory

theorem slice_load (memory : Memory) {address : UInt16} {data : Bytes}
    (h : address.toNat + data.size ≤ addressCount) :
    (memory.load address data).slice address data.size = data := by
  apply Array.ext
  · exact SaveState.size_slice _ h
  · intro i hi hdata
    simp only [slice, load, Array.getElem_extract, Vector.getElem_toArray, Cells.getElem_overwrite]
    rw [dif_pos (by omega)]
    congr 1
    omega

theorem slice_load_below (memory : Memory) {address other : UInt16} {count : Nat} {data : Bytes}
    (h : other.toNat + count ≤ address.toNat) :
    (memory.load address data).slice other count = memory.slice other count := by
  apply Array.ext
  · simp [slice, load]
  · intro i hi _
    simp only [slice, load, Array.size_extract] at hi
    simp only [slice, load, Array.getElem_extract, Vector.getElem_toArray, Cells.getElem_overwrite]
    rw [dif_neg (by omega)]

end Memory

namespace SaveState.Parts

theorem slice_ram (parts : Parts) (memory : Memory) (h : parts.ram.size = ramSize) :
    (parts.onMemory memory).slice 0 ramSize = parts.ram := by
  have hload : (memory.load 0 parts.ram).slice 0 ramSize = parts.ram := by
    rw [← h]
    exact Memory.slice_load memory (by rw [h]; decide)
  unfold onMemory
  split
  · rw [Memory.slice_load_below _ (by decide), hload]
  · exact hload

theorem slice_expansionRam {parts : Parts} (memory : Memory) {ram : Bytes}
    (h : parts.expansionRam = some ram) (hsize : ram.size = ramSize) :
    (parts.onMemory memory).slice 0x4000 ramSize = ram := by
  simp only [onMemory, h]
  rw [← hsize]
  exact Memory.slice_load _ (by rw [hsize]; decide)

end SaveState.Parts

namespace Riot

theorem wordAt_snapshot (word : UInt16) :
    (word / 256).toUInt8.toUInt16 * 256 + word.toUInt8.toUInt16 = word := by
  have hlt := word.toNat_lt
  apply UInt16.toNat_inj.1
  simp [UInt16.toNat_add, UInt16.toNat_mul, UInt16.toNat_div]
  omega

theorem restore_snapshot (riot : Riot) {saved : Riot} (h : saved.timer.prescaler ≠ 0) :
    riot.restore saved.snapshot =
      { pinsA := { riot.pinsA with direction := saved.pinsA.direction }
        pinsB := { riot.pinsB with direction := saved.pinsB.direction }
        timer := {
          register := saved.timer.register
          intervals := saved.timer.intervals
          prescaler := saved.timer.prescaler
          counting := saved.timer.counting
          remaining := saved.timer.prescaler.toNat * saved.timer.intervals.toNat
          count := saved.timer.intervals } } := by
  have hregister : wordAt saved.snapshot 3 = saved.timer.register := wordAt_snapshot _
  have hprescaler : wordAt saved.snapshot 6 = saved.timer.prescaler := wordAt_snapshot _
  have hcounting : (saved.snapshot.getD 2 0 != 0) = saved.timer.counting := by
    rw [show saved.snapshot.getD 2 0 = saved.timer.counting.toUInt8 from rfl]
    cases saved.timer.counting <;> rfl
  simp only [restore, hregister, hprescaler, hcounting, if_neg h]
  rfl

theorem snapshot_restore (riot : Riot) {saved : Riot} (h : saved.timer.prescaler ≠ 0) :
    (riot.restore saved.snapshot).snapshot = saved.snapshot := by
  rw [restore_snapshot riot h]
  rfl

end Riot

theorem ExpansionModule.restore_snapshot (xm saved : ExpansionModule) :
    xm.restore saved.snapshot = saved := by
  obtain ⟨ram, control⟩ := saved
  have hcells : (Array.extract (snapshot ⟨ram, control⟩) 1 (snapshot ⟨ram, control⟩).size) =
      ram.toArray := by
    simp [snapshot]
  have hcontrol : (snapshot ⟨ram, control⟩)[0]? = some control := by
    simp [snapshot]
  unfold restore
  rw [hcontrol]
  simp only [hcells, mk.injEq, and_true]
  apply Vector.ext
  intro i hi
  rw [Cells.getElem_overwrite, dif_pos (by simp; omega)]
  simp

theorem Cartridge.selectBank_bank (cartridge : Cartridge) (memory : Memory) :
    (cartridge.selectBank memory cartridge.bank).1 = cartridge := by
  by_cases h : cartridge.Selects cartridge.bank
  · rw [selectBank_of_selects memory h]
  · rw [selectBank_of_not_selects memory h]

namespace Console

variable {μ σ : Type} [SoundChip σ] [DisplayChip μ] {config : Config} {console : Console μ σ}
  {cartridge : Cartridge}

/-- The console after its own state has been loaded. -/
def reloaded (console : Console μ σ) (cartridge : Cartridge) : Console μ σ :=
  (console.resetFor true).restore (SaveState.savedParts console.board cartridge)

theorem loadState_own (h : console.board.bus.Coherent) (hc : console.cartridge? = some cartridge) :
    console.loadState console.saveState = (.ok (), console.reloaded cartridge) := by
  have hxm : console.board.bus.xm.isSome = cartridge.expansion := by
    rw [h.module_isSome, show console.board.bus.cartridge = some cartridge from hc]
    rfl
  unfold loadState
  rw [parse_saveState hc hxm]
  rfl

theorem loadState_saveState (h : console.Settled config)
    (hc : console.cartridge? = some cartridge) :
    console.loadState console.saveState = (.ok (), console.reloaded cartridge) :=
  loadState_own h.coherent hc

theorem bus_reloaded (h : console.Settled config) (cartridge : Cartridge) :
    (console.reloaded cartridge).board.bus =
      (SaveState.savedParts console.board cartridge).onBus (powerOnBus console.board.bus) := by
  rw [reloaded, restore_eq, resetFor_eq h.highScore_eq]

theorem cartridge?_reloaded (h : console.Settled config)
    (hc : console.cartridge? = some cartridge) :
    (console.reloaded cartridge).cartridge? = some cartridge := by
  have hbus : (powerOnBus console.board.bus).cartridge = some cartridge :=
    (cartridge_powerOnBus _).trans hc
  rw [cartridge?, bus_reloaded h, SaveState.Parts.onBus, SystemBus.selectBank_eq hbus]
  exact congrArg some (cartridge.selectBank_bank _)

theorem riot_reloaded (h : console.Settled config) (cartridge : Cartridge) :
    (console.reloaded cartridge).board.bus.riot.snapshot = console.board.bus.riot.snapshot := by
  rw [bus_reloaded h]
  exact Riot.snapshot_restore _ h.coherent.prescaler_ne

theorem xm_reloaded (h : console.Settled config) (cartridge : Cartridge) :
    (console.reloaded cartridge).board.bus.xm = console.board.bus.xm := by
  have hmodule := h.coherent.module_isSome
  rw [bus_reloaded h, SaveState.Parts.onBus, SaveState.Parts.onModule, powerOnBus_eq]
  simp only [SaveState.savedParts, ← hmodule]
  cases console.board.bus.xm with
  | none => rfl
  | some xm =>
    simp only [Option.map_some, Option.isSome_some, if_true, ExpansionModule.restore_snapshot]

theorem ram_reloaded (h : console.Settled config) (cartridge : Cartridge) :
    (console.reloaded cartridge).board.bus.memory.slice 0 SaveState.ramSize =
      console.board.bus.memory.slice 0 SaveState.ramSize := by
  rw [bus_reloaded h]
  exact SaveState.Parts.slice_ram _ _ (SaveState.size_slice _ (by decide))

theorem expansionRam_reloaded (h : console.Settled config)
    (hram : SaveState.hasExpansionRam cartridge) :
    (console.reloaded cartridge).board.bus.memory.slice 0x4000 SaveState.ramSize =
      console.board.bus.memory.slice 0x4000 SaveState.ramSize := by
  rw [bus_reloaded h]
  exact SaveState.Parts.slice_expansionRam _ (if_pos hram) (SaveState.size_slice _ (by decide))

theorem chainOf_reloaded (h : console.Settled config) (cartridge : Cartridge) :
    SaveState.chainOf (console.reloaded cartridge).board cartridge =
      SaveState.chainOf console.board cartridge := by
  have hregisters : (console.reloaded cartridge).board.cpu.registers =
      console.board.cpu.registers := by
    rw [reloaded, restore_eq]
    rfl
  have hexpansion : (if SaveState.hasExpansionRam cartridge then
      (console.reloaded cartridge).board.bus.memory.slice 0x4000 SaveState.ramSize else #[]) =
      if SaveState.hasExpansionRam cartridge then
        console.board.bus.memory.slice 0x4000 SaveState.ramSize else #[] := by
    split
    · rename_i hram
      exact expansionRam_reloaded h hram
    · rfl
  unfold SaveState.chainOf
  rw [hregisters, ram_reloaded h, hexpansion, riot_reloaded h, xm_reloaded h]

/-- A state that a console has saved is accepted by it, and what it saves then is the same state. -/
theorem resave (h : Reachable config console) (hmounted : console.cartridge?.isSome) :
    (console.loadState console.saveState).1 = .ok () ∧
      (console.loadState console.saveState).2.saveState = console.saveState := by
  obtain ⟨cartridge, hc⟩ := Option.isSome_iff_exists.1 hmounted
  have hsettled := h.settled
  rw [loadState_saveState hsettled hc]
  refine ⟨rfl, ?_⟩
  rw [saveState_eq (cartridge?_reloaded hsettled hc), chainOf_reloaded hsettled,
    saveState_eq hc]

theorem resave_blankConsole :
    blankConsole.cartridge?.isSome ∧
      (blankConsole.loadState blankConsole.saveState).1 = .ok () ∧
      (blankConsole.loadState blankConsole.saveState).2.saveState = blankConsole.saveState := by
  have hmounted : blankConsole.cartridge?.isSome := by
    rw [cartridge?_blankConsole]
    rfl
  exact ⟨hmounted, resave reachable_blankConsole hmounted⟩

end Console
end Console7800
