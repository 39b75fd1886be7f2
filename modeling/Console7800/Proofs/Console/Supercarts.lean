import Console7800.Proofs.Cartridge.Tail
import Console7800.Proofs.Console.RecordedBank

/-!
# What a program selects on a supercart

Nothing from $8000 up is ever writable (`Memory.Guarded`), so a write into the window of a supercart
reaches the mapper, whatever is mapped. The mapper compares what is written with the number of whole
banks, and only then makes a bank of it. On the small kinds that is too early: the bank is folded to
two bits, but a value that needs it has been refused (`write_fourBanks`). On the largest kind one is
added, and in an image of 4 MB the sum comes round to the first bank (`write_supercartLarge`).
-/

namespace Console7800

open Cartridge (bankSize)
open Memory (Within)

/-! ## Protection from $8000 up -/

/-- Nothing from $8000 up is writable. -/
def Memory.Guarded (memory : Memory) : Prop :=
  ∀ address : UInt16, 0x8000 ≤ address → memory.isRom address = true

namespace Memory

variable {memory after : Memory}

theorem guarded_powerOn : powerOn.Guarded := by
  intro address hhigh
  rw [isRom_powerOn, decide_eq_true_iff]
  exact Nat.le_trans (by decide) (UInt16.le_iff_toNat_le.1 hhigh)

namespace Guarded

theorem of_sameProtected (h : memory.Guarded) (hsame : after.SameProtected memory) :
    after.Guarded := fun address hhigh =>
  (hsame address (Nat.le_trans (by decide) (UInt16.le_iff_toNat_le.1 hhigh))).1.trans
    (h address hhigh)

theorem writeRom (h : memory.Guarded) (start : UInt16) (data : Bytes) :
    (memory.writeRom start data).Guarded := fun address hhigh => by
  rw [isRom_writeRom, h address hhigh, ite_self]

theorem clearRom (h : memory.Guarded) : (memory.clearRom 0x4000 bankSize).Guarded := by
  intro address hhigh
  have hout : ¬ Within 0x4000 bankSize address := fun hin =>
    absurd hin.2 (Nat.not_lt.2 (UInt16.le_iff_toNat_le.1 hhigh))
  rw [isRom_clearRom, if_neg hout, h address hhigh]

theorem install (h : memory.Guarded) (cartridge : Cartridge) :
    (cartridge.install memory).Guarded :=
  cartridge.install_induction (P := fun f => (f memory).Guarded) h
    (fun start data hf => hf.writeRom start data) fun _ hf => hf.clearRom

theorem selectBank (h : memory.Guarded) (cartridge : Cartridge) (bank : UInt8) :
    (cartridge.selectBank memory bank).2.Guarded := by
  unfold Cartridge.selectBank
  split
  · exact h
  · dsimp only
    split
    · exact h.writeRom _ _
    · exact h

end Guarded
end Memory

namespace SystemBus

variable {σ : Type} {bus after : SystemBus σ}

theorem guarded_selectBank (h : bus.memory.Guarded) (bank : UInt8) :
    (bus.selectBank bank).memory.Guarded := by
  cases hc : bus.cartridge with
  | none => rwa [selectBank_of_none hc]
  | some cartridge =>
    rw [selectBank_eq hc]
    exact h.selectBank cartridge bank

/-- No access, and nothing else between resets, makes anything there writable. -/
theorem Change.guarded (hstep : Change bus after) (h : bus.memory.Guarded) :
    after.memory.Guarded := by
  rcases hstep.protection_cases with hsame | ⟨-, -, bank, -, rfl⟩ | rfl | rfl
  · exact h.of_sameProtected hsame.memory
  · exact guarded_selectBank h bank
  · unfold SystemBus.installCartridge
    split
    · exact h.install _
    · exact h
  · unfold SystemBus.installBoot
    split
    · exact h.writeRom _ _
    · exact h

variable [SoundChip σ]

theorem guarded_powerOnBus (bus : SystemBus σ) : (Console.powerOnBus bus).memory.Guarded := by
  have hcartridge : (bus.cartridge.elim .powerOn (·.install .powerOn)).Guarded := by
    cases bus.cartridge with
    | none => exact Memory.guarded_powerOn
    | some cartridge => exact Memory.guarded_powerOn.install cartridge
  rw [memory_powerOnBus_eq]
  split
  · split
    · exact hcartridge
    · exact Memory.guarded_powerOn.writeRom _ _
  · exact hcartridge

omit [SoundChip σ] in
theorem guarded_onBus (h : bus.memory.Guarded) (parts : SaveState.Parts) :
    (parts.onBus bus).memory.Guarded := fun address hhigh =>
  (parts.isRom_onMemory _ address).trans (guarded_selectBank h parts.bank address hhigh)

theorem Handling.guarded {boots : Option BootRom → Prop} (hstep : Handling boots bus after)
    (h : bus.memory.Guarded) : after.memory.Guarded := by
  cases hstep with
  | change hstep => exact hstep.guarded h
  | setBoot | release => exact h
  | mount | powerOn => exact guarded_powerOnBus _
  | restore => exact guarded_onBus h _

end SystemBus

namespace Console

variable {μ σ : Type} [SoundChip σ] [DisplayChip μ]

theorem Attainable.guarded {boots : Option BootRom → Prop} {console : Console μ σ}
    (h : Attainable boots console) : console.board.bus.memory.Guarded :=
  h.keeps (fun _ _ => Memory.guarded_powerOn) SystemBus.Handling.guarded

end Console

/-! ## A write into the window -/

namespace Cartridge

variable {cartridge : Cartridge} {address : UInt16}

/-- A supercart of a kind that decodes two bits of a bank's number if the image is small. -/
def Small (cartridge : Cartridge) : Prop :=
  cartridge.mapper = .supercart ∨ cartridge.mapper = .supercartRam ∨
    cartridge.mapper = .supercartRom

theorem Small.window?_eq (h : cartridge.Small) : cartridge.mapper.window? = some 0x8000 := by
  rcases h with h | h | h <;> rw [h] <;> rfl

theorem Small.selectedBank?_eq (h : cartridge.Small) (hlow : 0x8000 ≤ address)
    (hhigh : address < 0xC000) (value : UInt8) :
    cartridge.selectedBank? address value =
      if value.toNat < cartridge.image.size / bankSize then some value else none := by
  unfold selectedBank?
  rcases h with h | h | h <;> simp only [h, hlow, hhigh, true_and]

theorem Small.bankOffset_eq (h : cartridge.Small) (hsize : cartridge.image.size ≤ 0x10000)
    (bank : UInt8) : cartridge.bankOffset bank = bank.toNat % 4 * bankSize := by
  unfold bankOffset
  rcases h with h | h | h <;> simp [h, hsize]

section

variable (hmapper : cartridge.mapper = .supercartLarge)

include hmapper

theorem selectedBank?_large (hlow : 0x8000 ≤ address) (hhigh : address < 0xC000) (value : UInt8) :
    cartridge.selectedBank? address value =
      if value.toNat < cartridge.image.size / bankSize then some (value + 1) else none := by
  unfold selectedBank?
  simp only [hmapper, hlow, hhigh, true_and]

theorem bankOffset_large (bank : UInt8) :
    cartridge.bankOffset bank = bank.toNat * bankSize := by
  unfold bankOffset
  simp [hmapper]

end

theorem toNat_and_three (value : UInt8) : (value &&& 3).toNat = value.toNat % 4 := by
  rw [UInt8.toNat_and]
  exact Nat.and_two_pow_sub_one_eq_mod value.toNat 2

end Cartridge

namespace SystemBus

variable {σ : Type} {bus after : SystemBus σ} {mounted : Cartridge} {bank : UInt8}

/-- What a selection makes of a bus with a window at $8000: the bank is recorded, and the window
shows it as far as the image has it, and then what it showed before. -/
structure Switches (mounted : Cartridge) (bank : UInt8) (bus after : SystemBus σ) : Prop where
  cartridge_eq : after.cartridge = some { mounted with bank }
  window : ∀ address, Within 0x8000 bankSize address →
    after.memory.read address =
      if address.toNat - 0x8000 < mounted.bankExtent bank then
        mounted.image.getD (mounted.bankOffset bank + (address.toNat - 0x8000)) 0
      else bus.memory.read address

theorem exists_cartridge_eq
    (h : bus.cartridge.map Cartridge.unbanked = some mounted.unbanked) :
    ∃ last, bus.cartridge = some { mounted with bank := last } := by
  obtain ⟨cartridge, hc, hsame⟩ := Option.map_eq_some_iff.1 h
  refine ⟨cartridge.bank, hc.trans (congrArg some ?_)⟩
  exact congrArg (fun other : Cartridge => { other with bank := cartridge.bank }) hsame

theorem switches_selectBank (h : bus.cartridge.map Cartridge.unbanked = some mounted.unbanked)
    (hwindow : mounted.mapper.window? = some 0x8000)
    (hbank : mounted.bankOffset bank < mounted.image.size) :
    Switches mounted bank bus (bus.selectBank bank) := by
  obtain ⟨last, hc⟩ := exists_cartridge_eq h
  have hselects : Cartridge.Selects { mounted with bank := last } bank :=
    ⟨Option.isSome_of_eq_some hwindow, hbank⟩
  rw [selectBank_eq hc]
  refine ⟨congrArg some (Cartridge.selectBank_of_selects bus.memory hselects),
    fun address hin => ?_⟩
  exact @Cartridge.read_selectBank { mounted with bank := last } 0x8000 bank hwindow hbank
    bus.memory address (UInt16.le_iff_toNat_le.2 hin.1)

theorem selectBank_past (h : bus.cartridge.map Cartridge.unbanked = some mounted.unbanked)
    (hbank : mounted.image.size ≤ mounted.bankOffset bank) : bus.selectBank bank = bus := by
  obtain ⟨last, hc⟩ := exists_cartridge_eq h
  have hselects : ¬ Cartridge.Selects { mounted with bank := last } bank := fun hselects =>
    Nat.not_lt.2 hbank hselects.2
  rw [selectBank_eq hc, Cartridge.selectBank_of_not_selects bus.memory hselects, ← hc]

theorem Switches.slice (h : Switches mounted bank bus after)
    (hwindow : mounted.mapper.window? = some 0x8000)
    (hwhole : mounted.bankOffset bank + bankSize ≤ mounted.image.size) :
    after.memory.slice 0x8000 bankSize = mounted.part (mounted.bankOffset bank) bankSize := by
  have hextent : mounted.bankExtent bank = bankSize := Nat.min_eq_left (by omega)
  have hsize : (mounted.part (mounted.bankOffset bank) bankSize).size = bankSize :=
    (mounted.size_part_bank bank).trans hextent
  refine Memory.slice_eq_of_read hsize (Cartridge.window_add_le hwindow) fun address hin => ?_
  have hplace : address.toNat - (0x8000 : UInt16).toNat < bankSize := by
    have := hin.2
    simp only [bankSize] at this ⊢
    omega
  rw [Cartridge.getD_part mounted hplace]
  exact (h.window address hin).trans (if_pos (hextent ▸ hplace))

theorem write_window [SoundChip σ] (hguarded : bus.memory.Guarded)
    (h : bus.cartridge.map Cartridge.unbanked = some mounted.unbanked) {address : UInt16}
    (hlow : 0x8000 ≤ address) (value : UInt8) :
    bus.write address value =
      match mounted.selectedBank? address value with
      | some bank => bus.selectBank bank
      | none => bus := by
  obtain ⟨last, hc⟩ := exists_cartridge_eq h
  rw [bus.write_high hlow (hguarded address hlow), romWrite_eq, hc]
  rfl

section Small

variable (h : bus.cartridge.map Cartridge.unbanked = some mounted.unbanked)
  (hsmall : mounted.Small) (hsize : mounted.image.size = 4 * bankSize)

include h hsmall hsize

/-- The mapper refuses what is not the number of one of the four banks. -/
theorem write_window_small [SoundChip σ] (hguarded : bus.memory.Guarded) {address : UInt16}
    (hlow : 0x8000 ≤ address) (hhigh : address < 0xC000) (value : UInt8) :
    bus.write address value = if value < 4 then bus.selectBank value else bus := by
  have hcount : mounted.image.size / bankSize = 4 := by
    rw [hsize]
    exact Nat.mul_div_cancel _ (by decide)
  have hwrite := write_window hguarded h hlow value
  rw [hsmall.selectedBank?_eq hlow hhigh, hcount] at hwrite
  rw [hwrite]
  by_cases hvalue : value < 4
  · have hlt : value.toNat < 4 := UInt8.lt_iff_toNat_lt.1 hvalue
    rw [if_pos hlt, if_pos hvalue]
  · have hlt : ¬ value.toNat < 4 := fun hlt => hvalue (UInt8.lt_iff_toNat_lt.2 hlt)
    rw [if_neg hlt, if_neg hvalue]

/-- Every number is folded to one of the four banks. -/
theorem slice_selectBank_small (bank : UInt8) :
    (bus.selectBank bank).memory.slice 0x8000 bankSize = mounted.bankBytes (bank &&& 3) := by
  have hoffset : mounted.bankOffset bank = bank.toNat % 4 * bankSize :=
    hsmall.bankOffset_eq (Nat.le_of_eq hsize) bank
  have hwhole : mounted.bankOffset bank + bankSize ≤ mounted.image.size := by
    have hlt : bank.toNat % 4 < 4 := Nat.mod_lt _ (by decide)
    rw [hoffset, hsize]
    simp only [bankSize]
    omega
  have hinside : mounted.bankOffset bank < mounted.image.size :=
    Nat.lt_of_lt_of_le (Nat.lt_add_of_pos_right (by decide)) hwhole
  have hswitched := switches_selectBank h hsmall.window?_eq hinside
  rw [hswitched.slice hsmall.window?_eq hwhole, hoffset, ← Cartridge.toNat_and_three]
  rfl

end Small

section Large

variable (hmapper : mounted.mapper = .supercartLarge)

include hmapper

/-- The mapper adds one to the number of a bank that the image has all of. -/
theorem write_window_large [SoundChip σ] (hguarded : bus.memory.Guarded)
    (h : bus.cartridge.map Cartridge.unbanked = some mounted.unbanked) {address : UInt16}
    (hlow : 0x8000 ≤ address) (hhigh : address < 0xC000) (value : UInt8) :
    bus.write address value =
      if value.toNat < mounted.image.size / bankSize then bus.selectBank (value + 1) else bus := by
  rw [write_window hguarded h hlow, Cartridge.selectedBank?_large hmapper hlow hhigh]
  by_cases hvalue : value.toNat < mounted.image.size / bankSize
  · rw [if_pos hvalue, if_pos hvalue]
  · rw [if_neg hvalue, if_neg hvalue]

theorem switches_selectBank_large (h : bus.cartridge.map Cartridge.unbanked = some mounted.unbanked)
    (hinside : bank.toNat * bankSize < mounted.image.size) :
    Switches mounted bank bus (bus.selectBank bank) := by
  refine switches_selectBank h (by rw [hmapper]; rfl) ?_
  rwa [Cartridge.bankOffset_large hmapper]

theorem Switches.slice_large (h : Switches mounted bank bus after)
    (hwhole : (bank.toNat + 1) * bankSize ≤ mounted.image.size) :
    after.memory.slice 0x8000 bankSize = mounted.part (bank.toNat * bankSize) bankSize := by
  rw [Nat.succ_mul, ← Cartridge.bankOffset_large hmapper bank] at hwhole
  rw [h.slice (by rw [hmapper]; rfl) hwhole, Cartridge.bankOffset_large hmapper]

end Large

end SystemBus

namespace Console

variable {μ σ : Type} [SoundChip σ] [DisplayChip μ] {console : Console μ σ}

/-- A supercart of one of the small kinds with four banks, on any console, and a write anywhere in
its window. Values below four select the bank that they name, and the others nothing, so the window
holds the bank of the two low bits exactly if the value has no more bits or the window held that
bank before. To select a bank by its number, as a saved state does, folds every number. -/
theorem write_fourBanks {boots : Option BootRom → Prop} {cartridge : Cartridge}
    (h : Attainable boots console) (hc : console.cartridge? = some cartridge)
    (hsmall : cartridge.Small) (hsize : cartridge.image.size = 4 * bankSize) {address : UInt16}
    (hlow : 0x8000 ≤ address) (hhigh : address < 0xC000) (value : UInt8) :
    let bus := console.board.bus
    let written := (console.perform (.write address value)).board.bus
    let folded := cartridge.bankBytes (value &&& 3)
    (value < 4 → written = bus.selectBank value) ∧ (4 ≤ value → written = bus) ∧
      (written.memory.slice 0x8000 bankSize = folded ↔
        value < 4 ∨ bus.memory.slice 0x8000 bankSize = folded) ∧
      (bus.selectBank value).memory.slice 0x8000 bankSize = folded := by
  intro bus written folded
  have hplugged : bus.cartridge.map Cartridge.unbanked = some cartridge.unbanked :=
    congrArg (Option.map Cartridge.unbanked) hc
  have hwritten : written = if value < 4 then bus.selectBank value else bus :=
    SystemBus.write_window_small hplugged hsmall hsize h.guarded hlow hhigh value
  have hfolded : (bus.selectBank value).memory.slice 0x8000 bankSize = folded :=
    SystemBus.slice_selectBank_small hplugged hsmall hsize value
  refine ⟨fun hvalue => by rw [hwritten, if_pos hvalue],
    fun hvalue => by rw [hwritten, if_neg (UInt8.not_lt.2 hvalue)], ?_, hfolded⟩
  by_cases hvalue : value < 4
  · rw [hwritten, if_pos hvalue]
    exact iff_of_true hfolded (.inl hvalue)
  · rw [hwritten, if_neg hvalue]
    simp only [hvalue, false_or]

theorem mounted_played {after : Console μ σ} {file : Bytes} {cartridge : Cartridge}
    (hload : Cartridge.load file = .ok cartridge)
    (hplayed : Played (console.loadCartridge file).2 after) :
    after.board.bus.memory.Guarded ∧
      after.board.bus.cartridge.map Cartridge.unbanked =
        some (console.configured cartridge).unbanked := by
  have hlasting : SystemBus.Lasting (fun _ => True) fun bus : SystemBus σ =>
      bus.memory.Guarded ∧ bus.cartridge.map Cartridge.unbanked =
        some (console.configured cartridge).unbanked := by
    refine ⟨fun hstep h => ⟨hstep.guarded h.1, hstep.plugged.2.trans h.2⟩, fun h => ?_,
      fun _ _ h => ⟨SystemBus.guarded_onBus h.1 _, ?_⟩⟩
    · exact ⟨SystemBus.guarded_powerOnBus _, by rw [cartridge_powerOnBus, h.2]⟩
    · exact (SystemBus.unbanked_selectBank _ _).trans h.2
  refine hlasting.played ?_ hplayed
  rw [loadCartridge_eq hload, reset, bus_resetFor]
  refine hlasting.evolves ((console.mounting cartridge).evolves_startBus false) ?_
  exact ⟨SystemBus.guarded_powerOnBus _, by rw [cartridge_powerOnBus]; rfl⟩

/-- A supercart of the largest kind is loaded, whatever the size of its image, and anything is done
that leaves it in. Then a value is written into the window. A value below the number of whole banks
selects the bank after the one that it names, if the image has any of that; but 255 selects the
first bank, if there are as many as 256. Every other write changes nothing. -/
theorem write_supercartLarge {after : Console μ σ} {file : Bytes} {cartridge : Cartridge}
    (hload : Cartridge.load file = .ok cartridge)
    (hmapper : (console.configured cartridge).mapper = .supercartLarge)
    (hplayed : Played (console.loadCartridge file).2 after) {address : UInt16}
    (hlow : 0x8000 ≤ address) (hhigh : address < 0xC000) (value : UInt8) :
    let mounted := console.configured cartridge
    let banks := mounted.image.size / bankSize
    let next := value.toNat + 1
    let bus := after.board.bus
    let written := (after.perform (.write address value)).board.bus
    (value.toNat < banks → next < 256 → next * bankSize < mounted.image.size →
        SystemBus.Switches mounted (value + 1) bus written ∧
          (next < banks →
            written.memory.slice 0x8000 bankSize = mounted.part (next * bankSize) bankSize)) ∧
      (value.toNat < banks → next = 256 →
        written.cartridge = some { mounted with bank := 0 } ∧
          written.memory.slice 0x8000 bankSize = mounted.part 0 bankSize) ∧
      (banks ≤ value.toNat ∨ next < 256 ∧ mounted.image.size ≤ next * bankSize →
        written = bus) := by
  intro mounted banks next bus written
  obtain ⟨hguarded, hplugged⟩ := mounted_played hload hplayed
  have hwrite : written = if value.toNat < banks then bus.selectBank (value + 1) else bus :=
    SystemBus.write_window_large hmapper hguarded hplugged hlow hhigh value
  have hnumber (hnext : next < 256) : (value + 1).toNat = next :=
    (UInt8.toNat_add value 1).trans (Nat.mod_eq_of_lt hnext)
  have hend {count : Nat} (hcount : count ≤ banks) : count * bankSize ≤ mounted.image.size :=
    (Nat.le_div_iff_mul_le (by decide)).1 hcount
  refine ⟨fun hvalue hnext hinside => ?_, fun hvalue hnext => ?_, fun hrefused => ?_⟩
  · rw [hwrite, if_pos hvalue]
    have hswitched : SystemBus.Switches mounted (value + 1) bus (bus.selectBank (value + 1)) :=
      SystemBus.switches_selectBank_large hmapper hplugged (by rwa [hnumber hnext])
    refine ⟨hswitched, fun hwhole => ?_⟩
    rw [hswitched.slice_large hmapper (by rw [hnumber hnext]; exact hend hwhole), hnumber hnext]
  · -- the sum comes round to zero
    have hzero : value + 1 = 0 := UInt8.toNat_inj.1 <| by
      rw [UInt8.toNat_add]
      exact congrArg (· % 256) hnext
    have hfirst : 1 * bankSize ≤ mounted.image.size := hend (Nat.zero_lt_of_lt hvalue)
    have hswitched := SystemBus.switches_selectBank_large hmapper hplugged
      (show (0 : UInt8).toNat * bankSize < _ from Nat.lt_of_lt_of_le (by decide) hfirst)
    rw [hwrite, if_pos hvalue, hzero]
    exact ⟨hswitched.cartridge_eq, hswitched.slice_large hmapper hfirst⟩
  · by_cases hvalue : value.toNat < banks
    · obtain ⟨hnext, hpast⟩ := hrefused.resolve_left (Nat.not_le.2 hvalue)
      rw [hwrite, if_pos hvalue]
      refine SystemBus.selectBank_past hplugged ?_
      rwa [Cartridge.bankOffset_large hmapper, hnumber hnext]
    · rw [hwrite, if_neg hvalue]

/-! ## Files of two tones -/

/-- A bank of ones, and as many banks of twos as are asked for, without a header. -/
def tonesFile (count : Nat) : Bytes := .replicate bankSize 1 ++ .replicate (count * bankSize) 2

theorem size_tonesFile (count : Nat) : (tonesFile count).size = (count + 1) * bankSize := by
  rw [tonesFile, Array.size_append, Array.size_replicate, Array.size_replicate, Nat.succ_mul,
    Nat.add_comm]

theorem extract_ones (count : Nat) {start stop : Nat} (h : stop ≤ bankSize) :
    (tonesFile count).extract start stop = .replicate (stop - start) 1 := by
  rw [tonesFile, Array.extract_append, Array.size_replicate, Nat.sub_eq_zero_of_le h,
    Array.extract_replicate, Nat.min_eq_left h]
  simp

theorem extract_twos {count start stop : Nat} (hstart : bankSize ≤ start)
    (hstop : stop ≤ (count + 1) * bankSize) :
    (tonesFile count).extract start stop = .replicate (stop - start) 2 := by
  have hlength : min (stop - bankSize) (count * bankSize) - (start - bankSize) = stop - start := by
    rw [Nat.succ_mul] at hstop
    omega
  rw [tonesFile, Array.extract_append, Array.size_replicate, Array.extract_replicate,
    Array.extract_replicate, hlength]
  simp
  omega

/-- What its size makes of it. -/
def tonesCartridge (count : Nat) : Cartridge :=
  { Cartridge.ofImage (tonesFile count) with mapper := .ofSize (tonesFile count).size }

theorem load_tonesFile (count : Nat) :
    Cartridge.load (tonesFile count) = .ok (tonesCartridge count) := by
  have hsize : Cartridge.headerSize < (tonesFile count).size := by
    rw [size_tonesFile, Nat.succ_mul]
    exact Nat.lt_of_lt_of_le (by decide) (Nat.le_add_left ..)
  have hstart : (tonesFile count).extract 1 10 = .replicate 9 1 := extract_ones count (by decide)
  exact load_headless hsize hstart (by decide)

/-- What a database says of it. -/
def tonesEntry (mapper : Mapper) : Database.Entry := { absoluteEntry with mapper }

/-- The cartridge as a database has it. -/
def knownTones (mapper : Mapper) (count : Nat) : Cartridge :=
  (tonesEntry mapper).apply (tonesCartridge count)

/-- A new console with a database that knows the file. -/
def tonesConsole (mapper : Mapper) (count : Nat) : Console IdleDisplay SilentSound :=
  (fresh {} {} {} {}).perform (.setDatabase (some
    ⟨[(Text.asciiLower (tonesCartridge count).digest.toList, tonesEntry mapper)]⟩))

theorem configured_tonesConsole (mapper : Mapper) (count : Nat) :
    (tonesConsole mapper count).configured (tonesCartridge count) = knownTones mapper count :=
  configured_of_database rfl

/-- That console with the file in it. -/
def tonesLoaded (mapper : Mapper) (count : Nat) : Console IdleDisplay SilentSound :=
  ((tonesConsole mapper count).loadCartridge (tonesFile count)).2

theorem cartridge?_tonesLoaded (mapper : Mapper) (count : Nat) :
    (tonesLoaded mapper count).cartridge? = some (knownTones mapper count) := by
  rw [tonesLoaded, cartridge?_loadCartridge rfl (load_tonesFile count), configured_tonesConsole]

theorem attainable_tonesLoaded (mapper : Mapper) (count : Nat) :
    Attainable (· = none) (tonesLoaded mapper count) :=
  .act (.act (.fresh _ _ _ _) (show (Action.setDatabase _).Allowed _ from trivial))
    (show (Action.loadCartridge _).Allowed _ from trivial)

/-- The window of a supercart is blank until a bank is selected. -/
theorem read_tonesLoaded (count : Nat) :
    (tonesLoaded .supercart count).board.bus.memory.read 0x8000 = 0 := by
  rw [tonesLoaded, bus_loadCartridge rfl (load_tonesFile count),
    SystemBus.memory_powerOnBus_of_no_boot rfl rfl, configured_tonesConsole,
    Cartridge.read_install_supercart rfl _ (by decide), Memory.read_powerOn]

theorem size_knownTones (mapper : Mapper) (count : Nat) :
    (knownTones mapper count).image.size = (count + 1) * bankSize :=
  size_tonesFile count

theorem part_ones (mapper : Mapper) (count : Nat) :
    (knownTones mapper count).part 0 bankSize = .replicate bankSize 1 :=
  extract_ones count (Nat.le_of_eq (Nat.zero_add _))

theorem part_twos (mapper : Mapper) {count i : Nat} (hi : i < count) :
    (knownTones mapper count).part ((i + 1) * bankSize) bankSize = .replicate bankSize 2 := by
  have hstart : bankSize ≤ (i + 1) * bankSize := Nat.le_mul_of_pos_left _ (Nat.succ_pos i)
  have hstop : (i + 1) * bankSize + bankSize ≤ (count + 1) * bankSize := by
    rw [← Nat.succ_mul]
    exact Nat.mul_le_mul_right _ (Nat.succ_le_succ hi)
  refine (extract_twos hstart hstop).trans ?_
  rw [Nat.add_sub_cancel_left]

/-- Four banks as a supercart, and a sixth selected. -/
theorem write_fourBanks_tonesFile :
    let bus := (tonesLoaded .supercart 3).board.bus
    let written := ((tonesLoaded .supercart 3).perform (.write 0x8000 5)).board.bus
    written = bus ∧ written.memory.slice 0x8000 bankSize ≠ .replicate bankSize 2 ∧
      (bus.selectBank 5).memory.slice 0x8000 bankSize = .replicate bankSize 2 := by
  obtain ⟨-, hrefused, hiff, hfolded⟩ := write_fourBanks (attainable_tonesLoaded .supercart 3)
    (cartridge?_tonesLoaded .supercart 3) (.inl rfl) (size_knownTones .supercart 3)
    (show (0x8000 : UInt16) ≤ 0x8000 by decide) (by decide) 5
  have hbytes : (knownTones .supercart 3).bankBytes (5 &&& 3) = .replicate bankSize 2 :=
    part_twos .supercart (i := 0) (by decide)
  rw [hbytes] at hiff hfolded
  refine ⟨hrefused (by decide), fun hslice => ?_, hfolded⟩
  have hshown := (hiff.1 hslice).resolve_left (by decide)
  have hread := Memory.getD_slice (tonesLoaded .supercart 3).board.bus.memory
    (show Within 0x8000 bankSize 0x8000 by decide)
  rw [hshown, read_tonesLoaded] at hread
  exact absurd hread (by simp [bankSize])

/-- 256 banks as a supercart of the largest kind, with the second bank selected. -/
def secondTone : Console IdleDisplay SilentSound :=
  (tonesLoaded .supercartLarge 255).perform (.write 0x8000 0)

theorem played_secondTone :
    Played ((tonesConsole .supercartLarge 255).loadCartridge (tonesFile 255)).2 secondTone := by
  rw [← tonesLoaded, secondTone]
  exact .act .start (show (Action.write 0x8000 0).Plays from trivial)

/-- The bank after the last is the first one. -/
theorem write_supercartLarge_tonesFile :
    (secondTone.perform (.write 0x8000 1)).board.bus.memory.slice 0x8000 bankSize =
        .replicate bankSize 2 ∧
      (secondTone.perform (.write 0x8000 255)).board.bus.memory.slice 0x8000 bankSize =
        .replicate bankSize 1 := by
  have hmounted := configured_tonesConsole .supercartLarge 255
  have hmapper : ((tonesConsole .supercartLarge 255).configured (tonesCartridge 255)).mapper =
      .supercartLarge := by rw [hmounted]; rfl
  have hbanks : (knownTones .supercartLarge 255).image.size / bankSize = 256 := by
    rw [size_knownTones]
    exact Nat.mul_div_cancel 256 (by decide)
  have hwrite (value : UInt8) := write_supercartLarge (load_tonesFile 255) hmapper played_secondTone
    (show (0x8000 : UInt16) ≤ 0x8000 by decide) (by decide) value
  dsimp only at hwrite
  rw [hmounted, hbanks, size_knownTones] at hwrite
  have hthird := ((hwrite 1).1 (by decide) (by decide) (by decide)).2 (by decide)
  have hfirst := ((hwrite 255).2.1 (by decide) (by decide)).2
  exact ⟨hthird.trans (part_twos .supercartLarge (i := 1) (by decide)),
    hfirst.trans (part_ones .supercartLarge 255)⟩

end Console
end Console7800
