import Console7800.Proofs.Cartridge.Panes

/-!
# Banks that are cut short

A bank of which the image has only the beginning is selected as a whole one is, and what the image
has of it is copied. The rest of the window keeps what it showed, as a rule a part of the bank that
was selected before (`read_selectBank`). What the window shows depends on the bank alone exactly if
the image has all of it (`window_selectBank`).
-/

namespace Console7800.Cartridge

open Memory (Within Overlays)

variable {cartridge : Cartridge} {window : UInt16} {bank : UInt8}

/-- How much of a bank the image has. -/
def bankExtent (cartridge : Cartridge) (bank : UInt8) : Nat :=
  min bankSize (cartridge.image.size - cartridge.bankOffset bank)

theorem size_part_bank (cartridge : Cartridge) (bank : UInt8) :
    (cartridge.part (cartridge.bankOffset bank) bankSize).size = cartridge.bankExtent bank := by
  rw [size_part, bankExtent]
  omega

theorem bankExtent_eq_iff (hbank : cartridge.bankOffset bank < cartridge.image.size) :
    cartridge.bankExtent bank = bankSize ↔
      cartridge.bankOffset bank + bankSize ≤ cartridge.image.size := by
  unfold bankExtent
  omega

/-! ## Selecting a bank -/

theorem selectBank_of_offset (hwindow : cartridge.mapper.window? = some window)
    (hbank : cartridge.bankOffset bank < cartridge.image.size) (memory : Memory) :
    cartridge.selectBank memory bank =
      ({ cartridge with bank },
        memory.writeRom window (cartridge.part (cartridge.bankOffset bank) bankSize)) := by
  unfold selectBank
  simp only [hwindow, if_pos hbank]

/-- A selection settles as much of the window as the image has of the bank. -/
theorem overlays_selectBank (hwindow : cartridge.mapper.window? = some window)
    (hbank : cartridge.bankOffset bank < cartridge.image.size) :
    Overlays [(window, cartridge.bankExtent bank)] fun memory =>
      (cartridge.selectBank memory bank).2 := by
  simp only [selectBank_of_offset hwindow hbank, ← size_part_bank]
  exact Memory.overlays_writeRom window _

/-- The window shows the bank as far as the image has it, and then what it showed before. -/
theorem read_selectBank (hwindow : cartridge.mapper.window? = some window)
    (hbank : cartridge.bankOffset bank < cartridge.image.size) (memory : Memory)
    {address : UInt16} (hstart : window ≤ address) :
    (cartridge.selectBank memory bank).2.read address =
      if address.toNat - window.toNat < cartridge.bankExtent bank then
        cartridge.image.getD (cartridge.bankOffset bank + (address.toNat - window.toNat)) 0
      else memory.read address := by
  have hstart := UInt16.le_iff_toNat_le.1 hstart
  rw [selectBank_of_offset hwindow hbank, Memory.read_writeRom, size_part_bank]
  by_cases hinside : address.toNat - window.toNat < cartridge.bankExtent bank
  · have hwithin : Within window (cartridge.bankExtent bank) address := ⟨hstart, by omega⟩
    have hshort : address.toNat - window.toNat < bankSize :=
      Nat.lt_of_lt_of_le hinside (Nat.min_le_left _ _)
    rw [if_pos hwithin, if_pos hinside, getD_part cartridge hshort]
  · rw [if_neg fun hwithin : Within window (cartridge.bankExtent bank) address =>
      hinside (by have := hwithin.2; omega), if_neg hinside]

/-- What the window shows of the bank does not depend on what memory held. -/
def SettlesWindow (cartridge : Cartridge) (bank : UInt8) : Prop :=
  ∀ first second : Memory, ∀ address : UInt16, cartridge.InWindow address →
    (cartridge.selectBank first bank).2.read address =
      (cartridge.selectBank second bank).2.read address

/-- The first address of the window that a bank cut short does not reach. -/
theorem exists_unsettled (hwindow : cartridge.mapper.window? = some window)
    (hshort : cartridge.bankExtent bank < bankSize) :
    ∃ address : UInt16, Within window bankSize address ∧
      ¬ Within window (cartridge.bankExtent bank) address := by
  obtain ⟨-, hbelow⟩ := window_bounds hwindow
  have hnumber : (UInt16.ofNat (window.toNat + cartridge.bankExtent bank)).toNat =
      window.toNat + cartridge.bankExtent bank := by
    refine UInt16.toNat_ofNat_of_lt' (show _ < 65536 from ?_)
    simp only [bankSize] at hshort
    omega
  refine ⟨.ofNat (window.toNat + cartridge.bankExtent bank), ?_⟩
  unfold Within
  rw [hnumber]
  omega

theorem settlesWindow_iff (hwindow : cartridge.mapper.window? = some window)
    (hbank : cartridge.bankOffset bank < cartridge.image.size) :
    cartridge.SettlesWindow bank ↔ cartridge.bankExtent bank = bankSize := by
  have hoverlays := overlays_selectBank hwindow hbank
  constructor
  · intro hsettles
    refine Nat.le_antisymm (Nat.min_le_left _ _) (Nat.le_of_not_lt fun hshort => ?_)
    obtain ⟨address, hin, hout⟩ := exists_unsettled hwindow hshort
    have hinside : cartridge.InWindow address := ⟨Nat.zero_lt_of_lt hbank, window, hwindow, hin⟩
    have hkept := hoverlays.outside address (mt (Memory.covers_singleton ..).1 hout)
    have hread := hsettles .powerOn (Memory.powerOn.poke address 1) address hinside
    rw [(hkept _).1, (hkept _).1, Memory.read_poke, if_pos rfl, Memory.read_powerOn] at hread
    exact absurd hread (by decide)
  · intro hwhole first second address hin
    obtain ⟨-, other, hother, hwithin⟩ := hin
    obtain rfl : window = other := Option.some.inj (hwindow.symm.trans hother)
    refine (hoverlays.eq_inside ?_ first second).1
    rwa [Memory.covers_singleton, hwhole]

/-- Of a supercart a program selects whole banks only, but of the largest one. -/
theorem whole_of_selectedBank {address : UInt16} {value : UInt8}
    (hmapper : cartridge.mapper = .supercart ∨ cartridge.mapper = .supercartRam ∨
      cartridge.mapper = .supercartRom)
    (hselect : cartridge.selectedBank? address value = some bank) :
    cartridge.bankOffset bank + bankSize ≤ cartridge.image.size := by
  obtain ⟨hlt, rfl⟩ : value.toNat < cartridge.image.size / bankSize ∧ value = bank := by
    unfold selectedBank? at hselect
    rcases hmapper with hmapper | hmapper | hmapper
    all_goals
      rw [hmapper] at hselect
      obtain ⟨hin, hvalue⟩ := Option.ite_none_right_eq_some.1 hselect
      exact ⟨hin.2.2, Option.some.inj hvalue⟩
  have hwhole : (value.toNat + 1) * bankSize ≤ cartridge.image.size :=
    (Nat.le_div_iff_mul_le (by decide)).1 hlt
  have hoffset : cartridge.bankOffset value ≤ value.toNat * bankSize := by
    unfold bankOffset
    dsimp only
    split
    · exact Nat.mul_le_mul_right _ (Nat.mod_le _ _)
    · exact Nat.le_refl _
  rw [Nat.succ_mul] at hwhole
  omega

/-- Select one bank and then another. The window shows the second as far as the image has it, after
that the first as far as the image has that, and then what was there before. So the bank settles
what it shows exactly if the image has all of it. That is so if the image is made of whole banks,
and of every bank that a program selects on a supercart, but for the largest kind. -/
theorem window_selectBank {before : UInt8} (hwindow : cartridge.mapper.window? = some window)
    (hbefore : cartridge.bankOffset before < cartridge.image.size)
    (hbank : cartridge.bankOffset bank < cartridge.image.size) :
    (∀ (memory : Memory) (address : UInt16), cartridge.InWindow address →
      let first := cartridge.selectBank memory before
      let place := address.toNat - window.toNat
      (first.1.selectBank first.2 bank).2.read address =
        if place < cartridge.bankExtent bank then
          cartridge.image.getD (cartridge.bankOffset bank + place) 0
        else if place < cartridge.bankExtent before then
          cartridge.image.getD (cartridge.bankOffset before + place) 0
        else memory.read address) ∧
    (cartridge.SettlesWindow bank ↔
      cartridge.bankOffset bank + bankSize ≤ cartridge.image.size) ∧
    (bankSize ∣ cartridge.image.size →
      cartridge.bankOffset bank + bankSize ≤ cartridge.image.size) ∧
    ∀ (address : UInt16) (value : UInt8), cartridge.selectedBank? address value = some bank →
      cartridge.mapper = .supercart ∨ cartridge.mapper = .supercartRam ∨
        cartridge.mapper = .supercartRom →
      cartridge.bankOffset bank + bankSize ≤ cartridge.image.size := by
  refine ⟨fun memory address hin => ?_, ?_, fun hbanks => whole_of_dvd hbanks hbank,
    fun address value hselect hmapper => whole_of_selectedBank hmapper hselect⟩
  · obtain ⟨-, other, hother, hstart, -⟩ := hin
    obtain rfl : window = other := Option.some.inj (hwindow.symm.trans hother)
    have hstart := UInt16.le_iff_toNat_le.2 hstart
    have hfirst : (cartridge.selectBank memory before).1 = { cartridge with bank := before } := by
      rw [selectBank_of_offset hwindow hbefore]
    have hsecond := @read_selectBank { cartridge with bank := before } window bank hwindow hbank
      (cartridge.selectBank memory before).2 address hstart
    dsimp only
    rw [hfirst, hsecond, read_selectBank hwindow hbefore memory hstart]
    rfl
  · exact (settlesWindow_iff hwindow hbank).trans (bankExtent_eq_iff hbank)

/-- Two banks and half a bank. -/
def shortCartridge : Cartridge :=
  { Cartridge.ofImage (.replicate bankSize 1 ++ .replicate bankSize 2 ++ .replicate 8192 3) with
    mapper := .supercartLarge }

theorem size_shortCartridge : shortCartridge.image.size = 40960 := by
  simp [shortCartridge, Cartridge.ofImage, bankSize]

/-- Behind the half bank the window shows the bank that was selected before. -/
theorem window_selectBank_shortCartridge :
    let shown (before : UInt8) :=
      let first := shortCartridge.selectBank .powerOn before
      (first.1.selectBank first.2 2).2.read 0xA000
    shown 0 = 1 ∧ shown 1 = 2 := by
  have hoffset (bank : UInt8) : shortCartridge.bankOffset bank = bank.toNat * bankSize := rfl
  have hin : shortCartridge.InWindow 0xA000 :=
    ⟨by rw [size_shortCartridge]; decide, 0x8000, rfl, by decide⟩
  have hbyte : shortCartridge.image.getD 8192 0 = 1 ∧ shortCartridge.image.getD 24576 0 = 2 := by
    simp [shortCartridge, Cartridge.ofImage, bankSize]
  have hshown (before : UInt8) (hbefore : before.toNat < 2) :
      let first := shortCartridge.selectBank .powerOn before
      (first.1.selectBank first.2 2).2.read 0xA000 =
        shortCartridge.image.getD (before.toNat * bankSize + 8192) 0 := by
    have hinside : shortCartridge.bankOffset before < shortCartridge.image.size := by
      rw [hoffset, size_shortCartridge, bankSize]
      omega
    have hlast : shortCartridge.bankOffset 2 < shortCartridge.image.size := by
      rw [hoffset, size_shortCartridge]
      decide
    have hextent : shortCartridge.bankExtent 2 = 8192 := by
      rw [bankExtent, hoffset, size_shortCartridge]
      decide
    have hwhole : shortCartridge.bankExtent before = bankSize := by
      rw [bankExtent_eq_iff hinside, hoffset, size_shortCartridge, bankSize]
      omega
    have hplace : (0xA000 : UInt16).toNat - (0x8000 : UInt16).toNat = 8192 := rfl
    have hwindow : shortCartridge.mapper.window? = some 0x8000 := rfl
    refine ((window_selectBank hwindow hinside hlast).1 .powerOn 0xA000 hin).trans ?_
    simp only [hextent, hwhole, hoffset before, hplace]
    rw [if_neg (by decide), if_pos (by decide)]
  exact ⟨(hshown 0 (by decide)).trans hbyte.1, (hshown 1 (by decide)).trans hbyte.2⟩

end Console7800.Cartridge
