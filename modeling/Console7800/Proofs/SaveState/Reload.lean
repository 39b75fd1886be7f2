import Console7800.Proofs.Console.Sessions

/-!
# A console after its own state has been loaded

What `reloaded` shows in memory, address by address: console RAM and RAM from $4000 are as they were
saved, and the rest is what a reset leaves, with the saved bank in the window.
-/

namespace Console7800

namespace Memory

theorem getD_slice (memory : Memory) {start address : UInt16} {count : Nat}
    (h : Within start count address) :
    (memory.slice start count).getD (address.toNat - start.toNat) 0 = memory.read address := by
  obtain ⟨hstart, hend⟩ := h
  have hlt : address.toNat < addressCount := address.toNat_lt
  have hindex : start.toNat + (address.toNat - start.toNat) = address.toNat := by omega
  simp only [slice, Array.getD_eq_getD_getElem?, Array.getElem?_extract, Vector.size_toArray]
  rw [if_pos (by omega), hindex]
  simp [read, hlt]

theorem slice_eq_of_read {memory : Memory} {start : UInt16} {count : Nat} {data : Bytes}
    (hsize : data.size = count) (hend : start.toNat + count ≤ addressCount)
    (h : ∀ address, Within start count address →
      memory.read address = data.getD (address.toNat - start.toNat) 0) :
    memory.slice start count = data := by
  have hslice := SaveState.size_slice memory hend
  refine Array.ext (hslice.trans hsize.symm) fun i hi hi' => ?_
  have hnumber : (UInt16.ofNat (start.toNat + i)).toNat = start.toNat + i :=
    UInt16.toNat_ofNat_of_lt' (show _ < addressCount by omega)
  have hin : Within start count (.ofNat (start.toNat + i)) := by
    unfold Within
    omega
  have hread := h _ hin
  rw [← getD_slice memory hin, hnumber, Nat.add_sub_cancel_left] at hread
  rwa [Array.getElem_eq_getD 0, Array.getElem_eq_getD 0]

/-- A block that was taken from one memory and put into another shows what it was taken from. -/
theorem read_load_slice (memory source : Memory) {start : UInt16} {count : Nat}
    (hcount : start.toNat + count ≤ addressCount) (address : UInt16) :
    (memory.load start (source.slice start count)).read address =
      if Within start count address then source.read address else memory.read address := by
  rw [read_load, SaveState.size_slice source hcount]
  split
  · rename_i hin
    exact getD_slice source hin
  · rfl

end Memory

namespace SaveState

open Memory (Within)

variable {μ σ : Type}

theorem read_onMemory_savedParts (board : Board μ σ) (cartridge : Cartridge) (memory : Memory)
    (address : UInt16) :
    ((savedParts board cartridge).onMemory memory).read address =
      if address.toNat < cartridgeStart ∨
          hasExpansionRam cartridge ∧ Within 0x4000 ramSize address then
        board.bus.memory.read address
      else memory.read address := by
  have hlow : Within 0 ramSize address ↔ address.toNat < cartridgeStart := by
    simp [Within, ramSize, cartridgeStart]
  unfold Parts.onMemory savedParts
  cases hram : hasExpansionRam cartridge with
  | true =>
    simp only [if_true, true_and]
    rw [Memory.read_load_slice _ _ (by decide), Memory.read_load_slice _ _ (by decide)]
    simp only [hlow]
    by_cases h : Within 0x4000 ramSize address <;> simp [h]
  | false =>
    simp only [Bool.false_eq_true, if_false, false_and, or_false]
    rw [Memory.read_load_slice _ _ (by decide)]
    simp only [hlow]

@[simp] theorem Parts.isRom_onMemory (parts : Parts) (memory : Memory) (address : UInt16) :
    (parts.onMemory memory).isRom address = memory.isRom address := by
  unfold onMemory
  split <;> rfl

end SaveState

namespace Console

variable {μ σ : Type} [SoundChip σ] [DisplayChip μ]

theorem bus_reloaded_eq (console : Console μ σ) (cartridge : Cartridge) :
    (console.reloaded cartridge).board.bus =
      (SaveState.savedParts console.board cartridge).onBus (console.startBus true) := by
  rw [reloaded, restore_eq, bus_resetFor]

variable {boots : Option BootRom → Prop} {console : Console μ σ} {cartridge : Cartridge}

theorem selectBank_startBus (h : Attainable boots console)
    (hc : console.cartridge? = some cartridge) (bank : UInt8) :
    (console.startBus true).selectBank bank =
      { console.startBus true with
        memory := (cartridge.selectBank (console.startBus true).memory bank).2
        cartridge := some (cartridge.selectBank (console.startBus true).memory bank).1 } := by
  obtain ⟨memory, hstart, -⟩ := h.sameButRam_startBus true
  refine SystemBus.selectBank_eq ?_ bank
  rw [hstart]
  exact (cartridge_powerOnBus _).trans hc

theorem cartridge_reloaded (h : Attainable boots console)
    (hc : console.cartridge? = some cartridge) :
    (console.reloaded cartridge).board.bus.cartridge = some cartridge := by
  rw [bus_reloaded_eq, SaveState.Parts.onBus, selectBank_startBus h hc]
  exact congrArg some (cartridge.selectBank_bank _)

theorem memory_reloaded (h : Attainable boots console) (hc : console.cartridge? = some cartridge) :
    (console.reloaded cartridge).board.bus.memory =
      (SaveState.savedParts console.board cartridge).onMemory
        (cartridge.selectBank (console.startBus true).memory cartridge.bank).2 := by
  rw [bus_reloaded_eq, SaveState.Parts.onBus, selectBank_startBus h hc]
  rfl

end Console

end Console7800
