import Console7800.Proofs.SystemBus.Change

/-!
# What holds of a bus between resets

A program can switch banks, but only those of a cartridge with a window; it can start the timer, but
only with one of four prescalers; and the expansion module is there if the cartridge asks for it.
-/

namespace Console7800

theorem Timer.prescalerOf_ne (register : UInt16) : prescalerOf register ≠ 0 := by
  unfold prescalerOf
  repeat' split
  all_goals decide

namespace Riot

theorem prescaler_advance (timer : Timer) (cycles : Nat) :
    (timer.advance cycles).prescaler = timer.prescaler := by
  unfold Timer.advance
  dsimp only
  repeat' split
  all_goals rfl

theorem prescaler_after {riot : Riot} (event : Event) (h : riot.timer.prescaler ≠ 0) :
    (riot.after event).timer.prescaler ≠ 0 := by
  cases event with
  | read address =>
    unfold after Riot.read
    dsimp only
    split <;> exact h
  | write address value =>
    unfold after Riot.write
    dsimp only
    repeat' split
    any_goals exact h
    exact Timer.prescalerOf_ne _
  | advance cycles =>
    have hkept : (riot.after (.advance cycles)).timer.prescaler = riot.timer.prescaler :=
      prescaler_advance riot.timer cycles
    rw [hkept]
    exact h
  | drive first second => exact h

end Riot

namespace Cartridge

/-- The cartridge without the bank that was selected last. -/
def unbanked (cartridge : Cartridge) : Cartridge := { cartridge with bank := 0 }

/-- There is a bank to select, and this one starts inside the image. -/
def Selects (cartridge : Cartridge) (bank : UInt8) : Prop :=
  cartridge.mapper.window?.isSome ∧ cartridge.bankOffset bank < cartridge.image.size

theorem selectBank_of_selects {cartridge : Cartridge} {bank : UInt8} (memory : Memory)
    (h : cartridge.Selects bank) :
    (cartridge.selectBank memory bank).1 = { cartridge with bank } := by
  obtain ⟨hwindow, hoffset⟩ := h
  obtain ⟨window, hw⟩ := Option.isSome_iff_exists.1 hwindow
  simp only [selectBank, hw, if_pos hoffset]

theorem selectBank_of_not_selects {cartridge : Cartridge} {bank : UInt8} (memory : Memory)
    (h : ¬ cartridge.Selects bank) : cartridge.selectBank memory bank = (cartridge, memory) := by
  unfold selectBank
  split
  · rfl
  · rename_i window hw
    have hoffset : ¬ cartridge.bankOffset bank < cartridge.image.size := fun hlt =>
      h ⟨Option.isSome_of_eq_some hw, hlt⟩
    simp only [if_neg hoffset]

/-- A cartridge whose mapper has no window has its first bank selected. -/
def BankFits (cartridge : Cartridge) : Prop :=
  cartridge.mapper.window? = none → cartridge.bank = 0

/-- What selecting a bank leaves of a cartridge: it differs in the bank only, and only if there is a
window. -/
theorem selectBank_fits {cartridge : Cartridge} (memory : Memory) (bank : UInt8) :
    (cartridge.selectBank memory bank).1.unbanked = cartridge.unbanked ∧
      (cartridge.BankFits → (cartridge.selectBank memory bank).1.BankFits) := by
  by_cases hselects : cartridge.Selects bank
  · rw [selectBank_of_selects memory hselects]
    refine ⟨rfl, fun _ hnone => ?_⟩
    exact absurd hselects.1 (by simp only at hnone; simp [hnone])
  · rw [selectBank_of_not_selects memory hselects]
    exact ⟨rfl, id⟩

theorem romWrite_fits {cartridge : Cartridge} (memory : Memory) (address : UInt16)
    (value : UInt8) :
    (cartridge.romWrite memory address value).1.unbanked = cartridge.unbanked ∧
      (cartridge.BankFits → (cartridge.romWrite memory address value).1.BankFits) := by
  unfold romWrite
  split
  · exact selectBank_fits memory _
  · exact ⟨rfl, id⟩

theorem expansion_eq_of_unbanked {first second : Cartridge} (h : first.unbanked = second.unbanked) :
    first.expansion = second.expansion :=
  show first.unbanked.expansion = second.unbanked.expansion by rw [h]

end Cartridge

namespace SystemBus

variable {σ : Type}

/-- What holds of a bus between resets. -/
structure Coherent (bus : SystemBus σ) : Prop where
  /-- The expansion module is there if the cartridge asks for it. -/
  module_isSome : bus.xm.isSome = bus.cartridge.any (·.expansion)
  prescaler_ne : bus.riot.timer.prescaler ≠ 0
  bank_fits : ∀ cartridge ∈ bus.cartridge, cartridge.BankFits

theorem selectBank_eq {bus : SystemBus σ} {cartridge : Cartridge}
    (h : bus.cartridge = some cartridge) (bank : UInt8) :
    bus.selectBank bank =
      { bus with
        memory := (cartridge.selectBank bus.memory bank).2
        cartridge := some (cartridge.selectBank bus.memory bank).1 } := by
  obtain ⟨memory, riot, tia, pokey, mounted, xm, boot, bootEnabled⟩ := bus
  obtain rfl : mounted = some cartridge := h
  rfl

theorem installCartridge_eq {bus : SystemBus σ} {cartridge : Cartridge}
    (h : bus.cartridge = some cartridge) :
    bus.installCartridge = { bus with memory := cartridge.install bus.memory } := by
  obtain ⟨memory, riot, tia, pokey, mounted, xm, boot, bootEnabled⟩ := bus
  obtain rfl : mounted = some cartridge := h
  rfl

theorem selectBank_of_none {bus : SystemBus σ} (h : bus.cartridge = none) (bank : UInt8) :
    bus.selectBank bank = bus := by
  obtain ⟨memory, riot, tia, pokey, mounted, xm, boot, bootEnabled⟩ := bus
  obtain rfl : mounted = none := h
  rfl

theorem unbanked_selectBank (bus : SystemBus σ) (bank : UInt8) :
    (bus.selectBank bank).cartridge.map Cartridge.unbanked =
      bus.cartridge.map Cartridge.unbanked := by
  cases hc : bus.cartridge with
  | none => rw [selectBank_of_none hc, hc]
  | some cartridge =>
    rw [selectBank_eq hc]
    exact congrArg some (cartridge.selectBank_fits _ _).1

theorem Coherent.of_cartridge {bus : SystemBus σ} {before after : Cartridge} {memory : Memory}
    (h : bus.Coherent) (hbus : bus.cartridge = some before)
    (hkept : after.unbanked = before.unbanked)
    (hfits : before.BankFits → after.BankFits) :
    Coherent { bus with memory, cartridge := some after } := by
  obtain ⟨hmodule, hprescaler, hbank⟩ := h
  refine ⟨?_, hprescaler, fun cartridge hmem => ?_⟩
  · rw [hmodule, hbus]
    exact (Cartridge.expansion_eq_of_unbanked hkept).symm
  · obtain rfl : after = cartridge := Option.some.inj hmem
    exact hfits (hbank before hbus)

theorem Coherent.selectBank {bus : SystemBus σ} (h : bus.Coherent) (bank : UInt8) :
    (bus.selectBank bank).Coherent := by
  cases hc : bus.cartridge with
  | none => rwa [selectBank_of_none hc]
  | some cartridge =>
    obtain ⟨hkept, hfits⟩ := cartridge.selectBank_fits bus.memory bank
    rw [selectBank_eq hc]
    exact h.of_cartridge hc hkept hfits

theorem Coherent.mapModule {bus : SystemBus σ} (h : bus.Coherent)
    (f : ExpansionModule → ExpansionModule) : (bus.mapModule f).Coherent := by
  obtain ⟨hmodule, hprescaler, hbank⟩ := h
  refine ⟨?_, hprescaler, hbank⟩
  rw [← show bus.cartridge = (bus.mapModule f).cartridge from rfl, ← hmodule]
  exact Option.isSome_map

theorem romWrite_mounted {bus : SystemBus σ} {cartridge : Cartridge}
    (h : bus.cartridge = some cartridge) (address : UInt16) (value : UInt8) :
    bus.romWrite address value =
      { bus with
        memory := (cartridge.romWrite bus.memory address value).2
        cartridge := some (cartridge.romWrite bus.memory address value).1 } := by
  obtain ⟨memory, riot, tia, pokey, mounted, xm, boot, bootEnabled⟩ := bus
  obtain rfl : mounted = some cartridge := h
  rfl

/-- A write to protected memory selects a bank, or does nothing. -/
theorem romWrite_eq (bus : SystemBus σ) (address : UInt16) (value : UInt8) :
    bus.romWrite address value =
      match bus.cartridge.bind (·.selectedBank? address value) with
      | some bank => bus.selectBank bank
      | none => bus := by
  obtain ⟨memory, riot, tia, pokey, _ | cartridge, xm, boot, bootEnabled⟩ := bus
  · rfl
  · simp only [SystemBus.romWrite, Cartridge.romWrite, Option.bind_some]
    cases cartridge.selectedBank? address value <;> rfl

theorem Coherent.romWrite {bus : SystemBus σ} (h : bus.Coherent) (address : UInt16)
    (value : UInt8) : (bus.romWrite address value).Coherent := by
  rw [romWrite_eq]
  split
  · exact h.selectBank _
  · exact h

theorem Coherent.installCartridge {bus : SystemBus σ} (h : bus.Coherent) :
    bus.installCartridge.Coherent := by
  unfold SystemBus.installCartridge
  split
  · exact ⟨h.module_isSome, h.prescaler_ne, h.bank_fits⟩
  · exact h

theorem Coherent.installBoot {bus : SystemBus σ} (h : bus.Coherent) :
    bus.installBoot.Coherent := by
  unfold SystemBus.installBoot
  split
  · exact ⟨h.module_isSome, h.prescaler_ne, h.bank_fits⟩
  · exact h

theorem Change.coherent {bus after : SystemBus σ} (h : Change bus after) (hbus : bus.Coherent) :
    after.Coherent := by
  cases h with
  | tia | pokey | latch | store => exact ⟨hbus.module_isSome, hbus.prescaler_ne, hbus.bank_fits⟩
  | riot event =>
    exact ⟨hbus.module_isSome, Riot.prescaler_after event hbus.prescaler_ne, hbus.bank_fits⟩
  | moduleRam | moduleControl => exact hbus.mapModule _
  | romWrite value => exact hbus.romWrite _ value
  | installCartridge => exact hbus.installCartridge
  | installBoot => exact hbus.installBoot

theorem Evolves.coherent {bus after : SystemBus σ} (h : Evolves bus after) (hbus : bus.Coherent) :
    after.Coherent :=
  Evolves.keeps Change.coherent h hbus

/-- Nothing that happens on a bus changes what is plugged in, but for the bank of the cartridge. -/
theorem Change.plugged {bus after : SystemBus σ} (h : Change bus after) :
    after.boot = bus.boot ∧
      after.cartridge.map Cartridge.unbanked = bus.cartridge.map Cartridge.unbanked := by
  cases h with
  | tia | pokey | latch | store | riot | moduleRam | moduleControl => exact ⟨rfl, rfl⟩
  | romWrite value =>
    unfold SystemBus.romWrite
    split
    · exact ⟨rfl, congrArg some (Cartridge.romWrite_fits _ _ _).1⟩
    · exact ⟨rfl, rfl⟩
  | installCartridge =>
    unfold SystemBus.installCartridge
    split <;> exact ⟨rfl, rfl⟩
  | installBoot =>
    unfold SystemBus.installBoot
    split <;> exact ⟨rfl, rfl⟩

theorem Evolves.plugged {bus after : SystemBus σ} (h : Evolves bus after) :
    after.boot = bus.boot ∧
      after.cartridge.map Cartridge.unbanked = bus.cartridge.map Cartridge.unbanked := by
  induction h with
  | refl => exact ⟨rfl, rfl⟩
  | tail _ hstep ih => exact ⟨hstep.plugged.1.trans ih.1, hstep.plugged.2.trans ih.2⟩

end SystemBus
end Console7800
