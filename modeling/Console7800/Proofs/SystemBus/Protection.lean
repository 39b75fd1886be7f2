import Console7800.Proofs.Memory
import Console7800.Proofs.SystemBus.Coherent

/-!
# What can happen to protected memory

Of all that happens on a bus, only the selection of a bank and the mapping of the cartridge or the
boot ROM reach what is protected in cartridge space (`Change.protection_cases`).
-/

namespace Console7800.SystemBus

variable {σ : Type}

/-- The same cartridge, and the same protected bytes in cartridge space. -/
structure Undisturbed (bus after : SystemBus σ) : Prop where
  boot_eq : after.boot = bus.boot
  cartridge_eq : after.cartridge = bus.cartridge
  memory : after.memory.SameProtected bus.memory

theorem Undisturbed.of_memory (bus : SystemBus σ) {memory : Memory}
    (h : memory.SameProtected bus.memory) : Undisturbed bus { bus with memory } := ⟨rfl, rfl, h⟩

theorem Undisturbed.refl (bus : SystemBus σ) : Undisturbed bus bus :=
  .of_memory bus (Memory.SameAbove.refl _).protected

theorem Change.protection_cases {bus after : SystemBus σ} (h : Change bus after) :
    Undisturbed bus after ∨
      (∃ cartridge ∈ bus.cartridge, ∃ bank : UInt8, cartridge.Selects bank ∧
        after = bus.selectBank bank) ∨
      after = bus.installCartridge ∨ after = bus.installBoot := by
  cases h with
  | tia | pokey | riot | moduleRam | moduleControl =>
    exact .inl ⟨rfl, rfl, (Memory.SameAbove.refl _).protected⟩
  | @latch address value hlow =>
    have hbelow : address.toNat < cartridgeStart :=
      Nat.lt_trans (UInt16.lt_iff_toNat_lt.1 hlow) (by decide)
    exact .inl (.of_memory bus (Memory.sameAbove_poke _ value hbelow).protected)
  | store value hrom => exact .inl (.of_memory bus (Memory.sameProtected_store _ value hrom))
  | romWrite value =>
    rw [romWrite_eq]
    split
    · rename_i bank hbank
      obtain ⟨cartridge, hc, -⟩ := Option.bind_eq_some_iff.1 hbank
      by_cases hselects : cartridge.Selects bank
      · exact .inr (.inl ⟨cartridge, hc, bank, hselects, rfl⟩)
      · rw [selectBank_eq hc, Cartridge.selectBank_of_not_selects _ hselects]
        exact .inl ⟨rfl, hc.symm, (Memory.SameAbove.refl _).protected⟩
    · exact .inl (.refl bus)
  | installCartridge => exact .inr (.inr (.inl rfl))
  | installBoot => exact .inr (.inr (.inr rfl))

end Console7800.SystemBus
