import Console7800.Proofs.Cartridge.Panes
import Console7800.SystemBus

/-!
# The bank model

What a cartridge shows in cartridge space while a program runs, told from the bank selected last
and what was written to the cartridge's RAM (`Cartridge.shown`). The model says which write selects
which bank; a write to the mapper paints the window accordingly (`romWrite_of_select`).
-/

namespace Console7800

namespace Mapper

/-- The bank of so many that a write to the mapper selects, if it selects one. -/
def select? (mapper : Mapper) (banks : Nat) (address : UInt16) (value : UInt8) : Option Nat :=
  match mapper with
  | .normal => none
  | .supercart | .supercartRam | .supercartRom =>
    if 0x8000 ≤ address ∧ address < 0xC000 ∧ value.toNat < banks then some value.toNat else none
  | .supercartLarge =>
    if 0x8000 ≤ address ∧ address < 0xC000 ∧ value.toNat + 1 < banks then some (value.toNat + 1)
    else none
  | .absolute =>
    if address = 0x8000 ∧ value = 1 then some 0
    else if address = 0x8000 ∧ value = 2 then some 1
    else none
  | .activision => if 0xFF80 ≤ address then some (address.toNat % 8) else none

end Mapper

namespace Cartridge

open Memory (Within)

section

variable {cartridge : Cartridge} {address : UInt16}

/-! ## Selecting a bank -/

theorem selectBank_of_lt (h : cartridge.Regular) {window : UInt16}
    (hwindow : cartridge.mapper.window? = some window) {bank : UInt8}
    (hbank : bank.toNat < cartridge.banks) (memory : Memory) :
    cartridge.selectBank memory bank =
      ({ cartridge with bank }, cartridge.paint (.ofBank window.toNat bank.toNat) memory) := by
  obtain ⟨hsize, -, -⟩ := h.exists_banks_of_window hwindow
  have hselects := selects_of_lt hsize (Option.isSome_of_eq_some hwindow) hbank
  unfold selectBank
  simp only [hwindow, if_pos hselects.2]
  rw [bankOffset_eq hsize hbank, paint, Pane.ofBank, UInt16.ofNat_toNat]

theorem toNat_and_seven (address : UInt16) : (address &&& 7).toNat = address.toNat % 8 := by
  rw [UInt16.toNat_and]
  exact Nat.and_two_pow_sub_one_eq_mod address.toNat 3

/-- The bank that the model selects is the one that the mapper does. -/
theorem selectedBank?_of_select (h : cartridge.Regular) {value : UInt8} {bank : Nat}
    (hselect : cartridge.mapper.select? cartridge.banks address value = some bank) :
    bank < cartridge.banks ∧ bank < 256 ∧
      cartridge.selectedBank? address value = some (.ofNat bank) := by
  have hbanks : cartridge.image.size / bankSize = cartridge.banks := rfl
  unfold Mapper.select? at hselect
  unfold selectedBank?
  cases hmapper : cartridge.mapper
  all_goals
    rw [hmapper] at hselect
    simp only [Option.ite_none_right_eq_some, Option.some.injEq, reduceCtorEq, hbanks] at hselect ⊢
  case supercart | supercartRam | supercartRom =>
    obtain ⟨hin, rfl⟩ := hselect
    exact ⟨hin.2.2, value.toNat_lt, hin, (UInt8.ofNat_toNat).symm⟩
  case supercartLarge =>
    obtain ⟨⟨hlow, hhigh, hlt⟩, rfl⟩ := hselect
    obtain ⟨-, -, hfew⟩ := h.exists_banks 1 (by rw [hmapper]; rfl)
    refine ⟨hlt, by omega, ⟨hlow, hhigh, by omega⟩, ?_⟩
    simp
  case absolute =>
    obtain ⟨-, hle, -⟩ := h.exists_banks 4 (by rw [hmapper]; rfl)
    split at hselect
    · rename_i hfirst
      obtain rfl := Option.some.inj hselect
      exact ⟨by omega, by omega, ⟨hfirst.1, .inl hfirst.2⟩, by rw [hfirst.2]; rfl⟩
    · obtain ⟨hsecond, rfl⟩ := by simpa only [Option.ite_none_right_eq_some, Option.some.injEq]
        using hselect
      exact ⟨by omega, by omega, ⟨hsecond.1, .inr hsecond.2⟩, by rw [hsecond.2]; rfl⟩
  case activision =>
    obtain ⟨hin, rfl⟩ := hselect
    obtain ⟨-, hle, -⟩ := h.exists_banks 8 (by rw [hmapper]; rfl)
    refine ⟨by omega, by omega, hin, UInt8.toNat_inj.1 ?_⟩
    rw [UInt16.toNat_toUInt8, toNat_and_seven, UInt8.toNat_ofNat']

theorem not_selects_of_select (h : cartridge.Regular) {value bank : UInt8}
    (hselect : cartridge.mapper.select? cartridge.banks address value = none)
    (hbank : cartridge.selectedBank? address value = some bank) : ¬ cartridge.Selects bank := by
  have hbanks : cartridge.image.size / bankSize = cartridge.banks := rfl
  unfold Mapper.select? at hselect
  unfold selectedBank? at hbank
  cases hmapper : cartridge.mapper
  all_goals
    rw [hmapper] at hselect hbank
    simp only [Option.ite_none_right_eq_some, Option.some.injEq, reduceCtorEq, hbanks,
      ite_eq_right_iff, imp_false] at hselect hbank
  case supercart | supercartRam | supercartRom => exact absurd hbank.1 hselect
  case supercartLarge =>
    obtain ⟨⟨hlow, hhigh, hlt⟩, rfl⟩ := hbank
    obtain ⟨hsize, -, hfew⟩ := h.exists_banks 1 (by rw [hmapper]; rfl)
    have hafter : ¬ value.toNat + 1 < cartridge.banks := fun hnext => hselect ⟨hlow, hhigh, hnext⟩
    have hnext : (value + 1).toNat = value.toNat + 1 := by
      rw [UInt8.toNat_add, UInt8.toNat_one]
      omega
    intro hselects
    have hoffset := hselects.2
    unfold bankOffset at hoffset
    simp only [hmapper, reduceCtorEq, or_self, false_and, if_false, hnext, hsize] at hoffset
    exact hafter (Nat.lt_of_mul_lt_mul_right hoffset)
  case absolute =>
    obtain ⟨⟨haddress, hvalue⟩, -⟩ := hbank
    rcases hvalue with hvalue | hvalue <;> simp [haddress, hvalue] at hselect
  case activision => exact absurd hbank.1 hselect

theorem romWrite_of_select (h : cartridge.Regular) {value : UInt8} {bank : Nat}
    (hselect : cartridge.mapper.select? cartridge.banks address value = some bank)
    (memory : Memory) :
    cartridge.romWrite memory address value =
      ({ cartridge with bank := .ofNat bank },
        cartridge.paintAll (cartridge.windowPane? (some bank)).toList memory) := by
  obtain ⟨hlt, hbyte, hselected⟩ := selectedBank?_of_select h hselect
  have hnumber : (UInt8.ofNat bank).toNat = bank := UInt8.toNat_ofNat_of_lt' hbyte
  obtain ⟨window, hwindow⟩ : ∃ window, cartridge.mapper.window? = some window := by
    cases hmapper : cartridge.mapper
    case normal =>
      rw [hmapper] at hselect
      cases hselect
    all_goals exact ⟨_, rfl⟩
  simp only [romWrite, hselected, windowPane?, hwindow]
  rw [selectBank_of_lt h hwindow (by rw [hnumber]; exact hlt), hnumber]
  rfl

theorem romWrite_of_not_select (h : cartridge.Regular) {value : UInt8}
    (hselect : cartridge.mapper.select? cartridge.banks address value = none) (memory : Memory) :
    cartridge.romWrite memory address value = (cartridge, memory) := by
  unfold romWrite
  cases hselected : cartridge.selectedBank? address value with
  | none => rfl
  | some bank => exact selectBank_of_not_selects memory (not_selects_of_select h hselect hselected)

end

end Cartridge

/-! ## The model -/

/-- One access to the bus. -/
inductive Request where
  | read (address : UInt16)
  | write (address : UInt16) (value : UInt8)
  deriving Repr, DecidableEq

/-- What a program has made of a cartridge, as far as it shows. -/
structure BankModel where
  /-- The bank in the window. -/
  bank : Option Nat
  /-- What is in the cartridge's RAM. -/
  ram : UInt16 → UInt8
  /-- The control latch of the expansion module, where the cartridge asks for one. -/
  control : UInt8

namespace BankModel

variable (cartridge : Cartridge) (model : BankModel)

/-- After a reset. -/
def start : BankModel where
  bank := cartridge.mapper.homeBank?
  ram _ := 0
  control := 0

/-- The cartridge has been mapped again. -/
def mappedAgain : BankModel :=
  { model with bank := cartridge.mapper.homeBank?.or model.bank, ram := fun _ => 0 }

/-- A write to an address of cartridge space goes to the RAM of the expansion module or to the
cartridge's sound chip. -/
def Elsewhere (address : UInt16) : Prop :=
  cartridge.expansion ∧ model.control &&& 0x08 ≠ 0 ∧ address < 0x8000 ∨
    cartridge.pokey ∧ ¬ cartridge.pokey450 ∧ address < 0x4010

instance (address : UInt16) : Decidable (model.Elsewhere cartridge address) :=
  inferInstanceAs (Decidable (_ ∨ _))

/-- What a write does. -/
def write (address : UInt16) (value : UInt8) : BankModel :=
  if address < 0x4000 then
    if address = inputControl ∧ value = SystemBus.mapCartridge then model.mappedAgain cartridge
    else if cartridge.expansion ∧ 0x0470 ≤ address ∧ address ≤ 0x047F then
      { model with control := value }
    else model
  else if model.Elsewhere cartridge address then model
  else if cartridge.InRam address then
    { model with ram := fun other => if other = address then value else model.ram other }
  else
    match cartridge.mapper.select? cartridge.banks address value with
    | some bank => { model with bank := some bank }
    | none => model

/-- A read does nothing. -/
def serve : Request → BankModel
  | .read _ => model
  | .write address value => model.write cartridge address value

end BankModel

namespace Cartridge

open Memory (Within)

/-- What the model shows at an address of cartridge space. -/
def shown (cartridge : Cartridge) (model : BankModel) (address : UInt16) : UInt8 :=
  if cartridge.InRam address then model.ram address
  else (cartridge.through? (cartridge.panes model.bank) address).getD 0

section

variable {cartridge : Cartridge} {model : BankModel} {address : UInt16}

theorem through?_append (first second : List Pane) :
    cartridge.through? (first ++ second) address =
      (cartridge.through? first address).or (cartridge.through? second address) := by
  unfold through?
  rw [List.find?_append, Option.map_or]

/-- An address outside the window is not covered by it, whatever bank it shows. -/
theorem through?_window_none
    (hout : ∀ window ∈ cartridge.mapper.window?, ¬ Within window bankSize address)
    (bank : Option Nat) :
    cartridge.through? (cartridge.windowPane? bank).toList address = none := by
  unfold windowPane?
  cases hwindow : cartridge.mapper.window? with
  | none => rfl
  | some window =>
    cases bank with
    | none => rfl
    | some bank =>
      have hcovers : ¬ (Pane.ofBank window.toNat bank).Covers address := hout window hwindow
      show cartridge.through? [Pane.ofBank window.toNat bank] address = none
      rw [through?_cons, if_neg hcovers]
      rfl

theorem through?_window_some {window : UInt16} (hwindow : cartridge.mapper.window? = some window)
    (hin : Within window bankSize address) (bank : Nat) :
    cartridge.through? (cartridge.windowPane? (some bank)).toList address =
      some (cartridge.byteAt address (.ofBank window.toNat bank)) := by
  have hcovers : (Pane.ofBank window.toNat bank).Covers address := hin
  unfold windowPane?
  rw [hwindow]
  show cartridge.through? [Pane.ofBank window.toNat bank] address = _
  rw [through?_cons, if_pos hcovers]

theorem through?_fixed_none {window : UInt16} (hwindow : cartridge.mapper.window? = some window)
    (hin : Within window bankSize address) :
    cartridge.through? cartridge.fixedPanes address = none := by
  unfold through?
  rw [Option.map_eq_none_iff, List.find?_eq_none]
  intro pane hmem hcovers
  exact (apart_fixedPanes hmem (of_decide_eq_true hcovers)).2 window hwindow hin

theorem not_inRam_of_window {window : UInt16} (hwindow : cartridge.mapper.window? = some window)
    (hin : Within window bankSize address) : ¬ cartridge.InRam address := by
  intro hram
  rw [hram.1] at hwindow
  obtain rfl : 0x8000 = window := Option.some.inj hwindow
  have hend := hram.2.2
  have hstart := hin.1
  simp only [bankSize, UInt16.reduceToNat] at hstart hend
  omega

theorem shown_of_window {window : UInt16} (hwindow : cartridge.mapper.window? = some window)
    (hin : Within window bankSize address) (ram : UInt16 → UInt8) (control : UInt8) (bank : Nat) :
    cartridge.shown { bank := some bank, ram, control } address =
      cartridge.byteAt address (.ofBank window.toNat bank) := by
  rw [shown, if_neg (not_inRam_of_window hwindow hin), panes, through?_append,
    through?_fixed_none hwindow hin, through?_window_some hwindow hin]
  rfl

theorem shown_of_not_window
    (hout : ∀ window ∈ cartridge.mapper.window?, ¬ Within window bankSize address) :
    cartridge.shown model address =
      if cartridge.InRam address then model.ram address
      else (cartridge.through? cartridge.fixedPanes address).getD 0 := by
  rw [shown, panes, through?_append, through?_window_none hout, Option.or_none]

/-! ## Memory and the model -/

theorem shown_start (h : cartridge.Regular) :
    (cartridge.install .powerOn).read address = cartridge.shown (.start cartridge) address := by
  rw [read_install h, Memory.read_powerOn]
  rfl

theorem shown_mappedAgain (h : cartridge.Regular) {memory : Memory}
    (hshown : memory.read address = cartridge.shown model address) :
    (cartridge.install memory).read address =
      cartridge.shown (model.mappedAgain cartridge) address := by
  rw [read_install h]
  by_cases hram : cartridge.InRam address
  · rw [if_pos hram, shown, if_pos hram]
    rfl
  rw [if_neg hram, hshown]
  by_cases hin : ∃ window ∈ cartridge.mapper.window?, Within window bankSize address
  · obtain ⟨window, hwindow, hin⟩ := hin
    unfold BankModel.mappedAgain
    cases hhome : cartridge.mapper.homeBank? with
    | none =>
      have hnone : cartridge.through? (cartridge.panes none) address = none := by
        rw [panes, through?_append, through?_fixed_none hwindow hin, windowPane?, hwindow]
        rfl
      rw [hnone, Option.getD_none, shown, shown, if_neg hram, if_neg hram]
      rfl
    | some bank =>
      rw [Option.some_or, shown_of_window hwindow hin, panes, through?_append,
        through?_fixed_none hwindow hin, through?_window_some hwindow hin]
      rfl
  · have hout : ∀ window ∈ cartridge.mapper.window?, ¬ Within window bankSize address :=
      fun window hwindow hwithin => hin ⟨window, hwindow, hwithin⟩
    rw [panes, through?_append, through?_window_none hout, Option.or_none,
      shown_of_not_window hout, shown_of_not_window hout, if_neg hram, if_neg hram]
    cases cartridge.through? cartridge.fixedPanes address <;> rfl

theorem shown_select (h : cartridge.Regular) {memory : Memory} {bank : Nat}
    (hbank : bank < cartridge.banks)
    (hshown : memory.read address = cartridge.shown model address) :
    (cartridge.paintAll (cartridge.windowPane? (some bank)).toList memory).read address =
      cartridge.shown { model with bank := some bank } address := by
  rw [read_paintAll fun pane hmem => fits_windowPane h hbank (Option.mem_toList.1 hmem)]
  by_cases hin : ∃ window ∈ cartridge.mapper.window?, Within window bankSize address
  · obtain ⟨window, hwindow, hin⟩ := hin
    rw [through?_window_some hwindow hin, shown_of_window hwindow hin]
    rfl
  · have hout : ∀ window ∈ cartridge.mapper.window?, ¬ Within window bankSize address :=
      fun window hwindow hwithin => hin ⟨window, hwindow, hwithin⟩
    rw [through?_window_none hout, Option.getD_none, hshown, shown_of_not_window hout,
      shown_of_not_window hout]

/-- A bank in the window protects nothing that was not protected. -/
theorem protects_select (h : cartridge.Regular) {memory : Memory} {bank : Nat}
    (hbank : bank < cartridge.banks) (hprotects : cartridge.Protects memory) :
    cartridge.Protects (cartridge.paintAll (cartridge.windowPane? (some bank)).toList memory) := by
  have hfits : ∀ pane ∈ (cartridge.windowPane? (some bank)).toList, pane.Fits cartridge :=
    fun pane hmem => fits_windowPane h hbank (Option.mem_toList.1 hmem)
  intro address
  rw [isRom_paintAll hfits, hprotects address]
  refine Bool.or_eq_right_iff_imp.2 fun hany => decide_eq_true ?_
  obtain ⟨pane, hmem, hcovers⟩ := List.any_eq_true.1 hany
  have hcovers := of_decide_eq_true hcovers
  refine ⟨Nat.le_trans (hfits pane hmem).above hcovers.1, ?_⟩
  obtain ⟨window, hwindow, hpane⟩ := Option.bind_eq_some_iff.1 (Option.mem_toList.1 hmem)
  obtain rfl := Option.some.inj hpane
  exact not_inRam_of_window hwindow hcovers

end

end Cartridge
end Console7800
