import Console7800.Proofs.Cartridge.Layout

/-!
# Panes

What a cartridge shows, as a list of panes: parts of its image at places in the address space. Some
panes stay where they are, and the window shows a bank. Mapping a cartridge paints its panes
(`read_install`) and leaves cartridge space protected but for the cartridge's RAM
(`protects_install`).
-/

namespace Console7800

open Cartridge (bankSize)

/-- A part of the image at a place in the address space. -/
structure Pane where
  start : Nat
  size : Nat
  /-- Where the part starts in the image. -/
  offset : Nat

namespace Pane

/-- A bank at an address. -/
def ofBank (start bank : Nat) : Pane := ⟨start, bankSize, bank * bankSize⟩

/-- Half a bank at an address. -/
def ofHalf (start half : Nat) : Pane := ⟨start, 8192, half * 8192⟩

def Covers (pane : Pane) (address : UInt16) : Prop :=
  pane.start ≤ address.toNat ∧ address.toNat < pane.start + pane.size

instance (pane : Pane) (address : UInt16) : Decidable (pane.Covers address) :=
  inferInstanceAs (Decidable (_ ∧ _))

/-- The pane shows a part of the image, in cartridge space. -/
structure Fits (cartridge : Cartridge) (pane : Pane) : Prop where
  above : cartridgeStart ≤ pane.start
  below : pane.start + pane.size ≤ addressCount
  inside : pane.offset + pane.size ≤ cartridge.image.size

end Pane

namespace Mapper

/-- The fewest banks that the layout has a place for. A flat image is not made of banks. -/
def fewestBanks? : Mapper → Option Nat
  | .normal => none
  | .supercart | .supercartLarge | .supercartRam => some 1
  | .supercartRom => some 2
  | .absolute => some 4
  | .activision => some 8

/-- The bank that is in the window when a cartridge has just been mapped. -/
def homeBank? : Mapper → Option Nat
  | .absolute | .activision => some 0
  | _ => none

end Mapper

namespace Cartridge

open Memory (Within)

instance (cartridge : Cartridge) (address : UInt16) : Decidable (cartridge.InRam address) :=
  inferInstanceAs (Decidable (_ ∧ _))

/-- The image is one that the layout is made for: a flat one of up to 48 KB, or else enough whole
banks whose numbers fit into a byte. -/
def Regular (cartridge : Cartridge) : Prop :=
  match cartridge.mapper.fewestBanks? with
  | none => cartridge.image.size ≤ 0xC000
  | some fewest => ∃ count, cartridge.image.size = count * bankSize ∧ fewest ≤ count ∧ count < 256

/-- Whole banks in the image. -/
def banks (cartridge : Cartridge) : Nat := cartridge.image.size / bankSize

/-- The panes that stay where they are. -/
def fixedPanes (cartridge : Cartridge) : List Pane :=
  match cartridge.mapper with
  | .normal => [⟨0x10000 - cartridge.image.size, cartridge.image.size, 0⟩]
  | .supercart | .supercartRam => [.ofBank 0xC000 (cartridge.banks - 1)]
  | .supercartLarge => [.ofBank 0x4000 0, .ofBank 0xC000 (cartridge.banks - 1)]
  | .supercartRom =>
    [.ofBank 0x4000 (cartridge.banks - 2), .ofBank 0xC000 (cartridge.banks - 1)]
  | .absolute => [⟨0x8000, 2 * bankSize, 2 * bankSize⟩]
  | .activision => [.ofHalf 0xE000 14, .ofHalf 0x8000 15, .ofHalf 0x6000 12, .ofHalf 0x4000 13]

/-- The window with a bank in it. -/
def windowPane? (cartridge : Cartridge) (bank : Option Nat) : Option Pane :=
  cartridge.mapper.window?.bind fun window => bank.map (.ofBank window.toNat)

def panes (cartridge : Cartridge) (bank : Option Nat) : List Pane :=
  cartridge.fixedPanes ++ (cartridge.windowPane? bank).toList

/-- The byte of the image that is seen at an address through a pane. -/
def byteAt (cartridge : Cartridge) (address : UInt16) (pane : Pane) : UInt8 :=
  cartridge.image.getD (pane.offset + (address.toNat - pane.start)) 0

/-- The byte that is seen at an address through the panes, if one of them covers it. -/
def through? (cartridge : Cartridge) (panes : List Pane) (address : UInt16) : Option UInt8 :=
  (panes.find? fun pane => decide (pane.Covers address)).map (cartridge.byteAt address)

/-! ## Painting -/

/-- Copy to memory what a pane shows. -/
def paint (cartridge : Cartridge) (pane : Pane) (memory : Memory) : Memory :=
  memory.writeRom (.ofNat pane.start) (cartridge.part pane.offset pane.size)

/-- Copy to memory what panes show, the first one last. -/
def paintAll (cartridge : Cartridge) (panes : List Pane) (memory : Memory) : Memory :=
  panes.foldr cartridge.paint memory

section

variable {cartridge : Cartridge} {pane : Pane} {panes : List Pane} {memory : Memory}

theorem getD_part (cartridge : Cartridge) {offset count i : Nat} (h : i < count) :
    (cartridge.part offset count).getD i 0 = cartridge.image.getD (offset + i) 0 := by
  simp only [part, Array.getD_eq_getD_getElem?, Array.getElem?_extract]
  split
  · rfl
  · rw [Array.getElem?_eq_none (by omega)]

theorem toNat_start (h : pane.Fits cartridge) (hpos : 0 < pane.size) :
    (UInt16.ofNat pane.start).toNat = pane.start :=
  UInt16.toNat_ofNat_of_lt' (show pane.start < addressCount by have := h.below; omega)

theorem size_pane (h : pane.Fits cartridge) :
    (cartridge.part pane.offset pane.size).size = pane.size := by
  rw [size_part, Nat.min_eq_left h.inside, Nat.add_sub_cancel_left]

theorem within_iff_covers (h : pane.Fits cartridge) (address : UInt16) :
    Within (.ofNat pane.start) (cartridge.part pane.offset pane.size).size address ↔
      pane.Covers address := by
  rw [size_pane h]
  unfold Within Pane.Covers
  rcases Nat.eq_zero_or_pos pane.size with hzero | hpos
  · omega
  · rw [toNat_start h hpos]

theorem read_paint (h : pane.Fits cartridge) (memory : Memory) (address : UInt16) :
    (cartridge.paint pane memory).read address =
      if pane.Covers address then cartridge.byteAt address pane else memory.read address := by
  rw [paint, Memory.read_writeRom]
  by_cases hcovers : pane.Covers address
  · have hinside : address.toNat - pane.start < pane.size := by
      have := hcovers.1
      have := hcovers.2
      omega
    rw [if_pos hcovers, if_pos ((within_iff_covers h address).2 hcovers),
      toNat_start h (by omega), getD_part cartridge hinside, byteAt]
  · rw [if_neg hcovers, if_neg (mt (within_iff_covers h address).1 hcovers)]

theorem isRom_paint (h : pane.Fits cartridge) (memory : Memory) (address : UInt16) :
    (cartridge.paint pane memory).isRom address =
      (decide (pane.Covers address) || memory.isRom address) := by
  rw [paint, Memory.isRom_writeRom]
  by_cases hcovers : pane.Covers address
  · rw [if_pos ((within_iff_covers h address).2 hcovers), decide_eq_true hcovers, Bool.true_or]
  · rw [if_neg (mt (within_iff_covers h address).1 hcovers), decide_eq_false hcovers,
      Bool.false_or]

theorem through?_cons (pane : Pane) (panes : List Pane) (address : UInt16) :
    cartridge.through? (pane :: panes) address =
      if pane.Covers address then some (cartridge.byteAt address pane)
      else cartridge.through? panes address := by
  unfold through?
  rw [List.find?_cons]
  by_cases hcovers : pane.Covers address <;> simp [hcovers]

theorem read_paintAll (h : ∀ pane ∈ panes, pane.Fits cartridge) (memory : Memory)
    (address : UInt16) :
    (cartridge.paintAll panes memory).read address =
      (cartridge.through? panes address).getD (memory.read address) := by
  induction panes with
  | nil => rfl
  | cons pane panes ih =>
    have ih := ih fun other hmem => h other (List.mem_cons_of_mem _ hmem)
    rw [paintAll, List.foldr_cons, ← paintAll, read_paint (h pane List.mem_cons_self), ih,
      through?_cons]
    split <;> rfl

theorem isRom_paintAll (h : ∀ pane ∈ panes, pane.Fits cartridge) (memory : Memory)
    (address : UInt16) :
    (cartridge.paintAll panes memory).isRom address =
      ((panes.any fun pane => decide (pane.Covers address)) || memory.isRom address) := by
  induction panes with
  | nil => rfl
  | cons pane panes ih =>
    have ih := ih fun other hmem => h other (List.mem_cons_of_mem _ hmem)
    rw [paintAll, List.foldr_cons, ← paintAll, isRom_paint (h pane List.mem_cons_self), ih,
      List.any_cons, Bool.or_assoc]

end

/-! ## The panes of a regular cartridge -/

section

variable {cartridge : Cartridge} {pane : Pane} {address : UInt16}

/-- A cartridge that is not flat has a number of whole banks. -/
theorem Regular.exists_banks (h : cartridge.Regular) (fewest : Nat)
    (hfewest : cartridge.mapper.fewestBanks? = some fewest) :
    cartridge.image.size = cartridge.banks * bankSize ∧ fewest ≤ cartridge.banks ∧
      cartridge.banks < 256 := by
  unfold Regular at h
  rw [hfewest] at h
  obtain ⟨count, hsize, hle, hlt⟩ := h
  have hbanks : cartridge.banks = count := by
    rw [banks, hsize]
    exact Nat.mul_div_cancel _ (by decide)
  rw [hbanks]
  exact ⟨hsize, hle, hlt⟩

theorem fits_ofBank (hsize : cartridge.image.size = cartridge.banks * bankSize) {start bank : Nat}
    (habove : 0x4000 ≤ start) (hbelow : start ≤ 0xC000) (hbank : bank < cartridge.banks) :
    (Pane.ofBank start bank).Fits cartridge := by
  refine ⟨habove, ?_, ?_⟩
  · simp only [Pane.ofBank, bankSize, addressCount]
    omega
  · simp only [Pane.ofBank, hsize, bankSize]
    omega

theorem fits_ofHalf (hsize : cartridge.image.size = cartridge.banks * bankSize) {start half : Nat}
    (habove : 0x4000 ≤ start) (hbelow : start ≤ 0xE000) (hhalf : half < 2 * cartridge.banks) :
    (Pane.ofHalf start half).Fits cartridge := by
  refine ⟨habove, ?_, ?_⟩
  · simp only [Pane.ofHalf, addressCount]
    omega
  · simp only [Pane.ofHalf, hsize, bankSize]
    omega

theorem fits_fixedPanes (h : cartridge.Regular) (hmem : pane ∈ cartridge.fixedPanes) :
    pane.Fits cartridge := by
  unfold fixedPanes at hmem
  cases hmapper : cartridge.mapper with
  | normal =>
    have hsize : cartridge.image.size ≤ 0xC000 := by
      unfold Regular at h
      rwa [hmapper] at h
    rw [hmapper] at hmem
    obtain rfl := List.mem_singleton.1 hmem
    exact ⟨by simp only [cartridgeStart]; omega, by simp only [addressCount]; omega, by simp⟩
  | supercart | supercartRam =>
    obtain ⟨hsize, hfewest, -⟩ := h.exists_banks 1 (by rw [hmapper]; rfl)
    rw [hmapper] at hmem
    obtain rfl := List.mem_singleton.1 hmem
    exact fits_ofBank hsize (by decide) (by decide) (by omega)
  | supercartLarge =>
    obtain ⟨hsize, hfewest, -⟩ := h.exists_banks 1 (by rw [hmapper]; rfl)
    rw [hmapper] at hmem
    simp only [List.mem_cons, List.not_mem_nil, or_false] at hmem
    rcases hmem with rfl | rfl
    all_goals exact fits_ofBank hsize (by decide) (by decide) (by omega)
  | supercartRom =>
    obtain ⟨hsize, hfewest, -⟩ := h.exists_banks 2 (by rw [hmapper]; rfl)
    rw [hmapper] at hmem
    simp only [List.mem_cons, List.not_mem_nil, or_false] at hmem
    rcases hmem with rfl | rfl
    all_goals exact fits_ofBank hsize (by decide) (by decide) (by omega)
  | absolute =>
    obtain ⟨hsize, hfewest, -⟩ := h.exists_banks 4 (by rw [hmapper]; rfl)
    rw [hmapper] at hmem
    obtain rfl := List.mem_singleton.1 hmem
    exact ⟨by decide, by decide, by simp only [hsize, bankSize]; omega⟩
  | activision =>
    obtain ⟨hsize, hfewest, -⟩ := h.exists_banks 8 (by rw [hmapper]; rfl)
    rw [hmapper] at hmem
    simp only [List.mem_cons, List.not_mem_nil, or_false] at hmem
    rcases hmem with rfl | rfl | rfl | rfl
    all_goals exact fits_ofHalf hsize (by decide) (by decide) (by omega)

/-- No pane that stays lies over the cartridge's RAM or over the window. -/
theorem apart_fixedPanes (hmem : pane ∈ cartridge.fixedPanes) (hcovers : pane.Covers address) :
    ¬ cartridge.InRam address ∧
      ∀ window ∈ cartridge.mapper.window?, ¬ Within window bankSize address := by
  obtain ⟨hstart, hend⟩ := hcovers
  unfold fixedPanes at hmem
  unfold InRam Within
  cases hmapper : cartridge.mapper
  all_goals
    rw [hmapper] at hmem
    simp only [List.mem_cons, List.not_mem_nil, or_false] at hmem
    simp only [Mapper.window?, Option.mem_def, Option.some.injEq, forall_eq', reduceCtorEq,
      false_and, not_false_eq_true, true_and, false_implies, implies_true, UInt16.reduceToNat,
      bankSize]
  case supercart | supercartRam =>
    obtain rfl := hmem
    simp only [Pane.ofBank] at hstart
    omega
  case supercartLarge | supercartRom =>
    rcases hmem with rfl | rfl
    all_goals
      simp only [Pane.ofBank, bankSize] at hstart hend
      omega
  case absolute =>
    obtain rfl := hmem
    simp only at hstart
    omega
  case activision =>
    rcases hmem with rfl | rfl | rfl | rfl
    all_goals
      simp only [Pane.ofHalf] at hstart hend
      omega

theorem Regular.exists_banks_of_window (h : cartridge.Regular) {window : UInt16}
    (hwindow : cartridge.mapper.window? = some window) :
    cartridge.image.size = cartridge.banks * bankSize ∧ 0 < cartridge.banks ∧
      cartridge.banks < 256 := by
  have hexists : ∃ fewest, cartridge.mapper.fewestBanks? = some fewest ∧ 0 < fewest := by
    cases hmapper : cartridge.mapper <;> rw [hmapper] at hwindow <;> cases hwindow <;>
      exact ⟨_, rfl, by decide⟩
  obtain ⟨fewest, hfewest, hpos⟩ := hexists
  obtain ⟨hsize, hle, hlt⟩ := h.exists_banks _ hfewest
  exact ⟨hsize, by omega, hlt⟩

theorem window_bounds {mapper : Mapper} {window : UInt16} (h : mapper.window? = some window) :
    0x4000 ≤ window.toNat ∧ window.toNat ≤ 0xC000 := by
  cases mapper <;> cases h <;> decide

theorem fits_windowPane (h : cartridge.Regular) {bank : Nat} (hbank : bank < cartridge.banks)
    (hmem : pane ∈ cartridge.windowPane? (some bank)) : pane.Fits cartridge := by
  obtain ⟨window, hwindow, hpane⟩ := Option.bind_eq_some_iff.1 hmem
  obtain rfl := Option.some.inj hpane
  obtain ⟨hsize, -, -⟩ := h.exists_banks_of_window hwindow
  obtain ⟨habove, hbelow⟩ := window_bounds hwindow
  exact fits_ofBank hsize habove hbelow hbank

theorem fits_home (h : cartridge.Regular) :
    ∀ pane ∈ cartridge.panes cartridge.mapper.homeBank?, pane.Fits cartridge := by
  intro pane hmem
  rcases List.mem_append.1 hmem with hmem | hmem
  · exact fits_fixedPanes h hmem
  · rw [Option.mem_toList] at hmem
    obtain ⟨window, hwindow, hpane⟩ := Option.bind_eq_some_iff.1 hmem
    cases hhome : cartridge.mapper.homeBank? with
    | none =>
      rw [hhome] at hpane
      cases hpane
    | some bank =>
      have hzero : bank = 0 := by
        cases hmapper : cartridge.mapper <;> rw [hmapper] at hhome <;> cases hhome <;> rfl
      rw [hhome, hzero] at hmem
      exact fits_windowPane h (h.exists_banks_of_window hwindow).2.1 hmem

/-- Memory with the panes of a cartridge on it that has just been mapped, and its RAM cleared. -/
def painted (cartridge : Cartridge) (memory : Memory) : Memory :=
  let painted := cartridge.paintAll (cartridge.panes cartridge.mapper.homeBank?) memory
  if cartridge.mapper = .supercartRam then painted.clearRom 0x4000 bankSize else painted

theorem install_banks (h : cartridge.Regular) {fewest : Nat}
    (hfewest : cartridge.mapper.fewestBanks? = some fewest) (memory : Memory) :
    cartridge.install memory = cartridge.painted memory := by
  obtain ⟨hsize, hle, -⟩ := h.exists_banks _ hfewest
  have hlast : cartridge.image.size - bankSize = (cartridge.banks - 1) * bankSize := by
    rw [hsize, Nat.sub_mul, Nat.one_mul]
  have hbefore : cartridge.image.size - 2 * bankSize = (cartridge.banks - 2) * bankSize := by
    rw [hsize, Nat.sub_mul]
  unfold install painted panes fixedPanes windowPane?
  cases hmapper : cartridge.mapper
  all_goals
    rw [hmapper] at hfewest
    simp only [Mapper.fewestBanks?, Option.some.injEq, reduceCtorEq] at hfewest
  case supercart | supercartLarge | supercartRam =>
    have henough : ¬ cartridge.image.size < bankSize := by
      rw [hsize]
      simp only [bankSize]
      omega
    simp only [if_neg henough, hlast]
    rfl
  case supercartRom =>
    have henough : ¬ cartridge.image.size < 2 * bankSize := by
      rw [hsize]
      simp only [bankSize]
      omega
    simp only [if_neg henough, hlast, hbefore]
    rfl
  case absolute => rfl
  case activision =>
    have henough : ¬ cartridge.image.size ≤ 122880 := by
      rw [hsize]
      simp only [bankSize]
      omega
    simp only [if_neg henough]
    rfl

theorem Regular.flat (h : cartridge.Regular) (hfewest : cartridge.mapper.fewestBanks? = none) :
    cartridge.mapper = .normal ∧ cartridge.image.size ≤ 0xC000 := by
  constructor
  · cases hmapper : cartridge.mapper <;> rw [hmapper] at hfewest <;> cases hfewest
  · unfold Regular at h
    rwa [hfewest] at h

/-- Mapping a cartridge shows and protects what painting it does. -/
theorem install_painted (h : cartridge.Regular) (memory : Memory) (address : UInt16) :
    (cartridge.install memory).read address = (cartridge.painted memory).read address ∧
      (cartridge.install memory).isRom address = (cartridge.painted memory).isRom address := by
  cases hfewest : cartridge.mapper.fewestBanks? with
  | some fewest => rw [install_banks h hfewest]; exact ⟨rfl, rfl⟩
  | none =>
    obtain ⟨hmapper, hsize⟩ := h.flat hfewest
    have hfits : Pane.Fits cartridge ⟨0x10000 - cartridge.image.size, cartridge.image.size, 0⟩ :=
      fits_fixedPanes h (by rw [fixedPanes, hmapper]; exact List.mem_singleton_self _)
    have hpainted : cartridge.painted memory =
        cartridge.paint ⟨0x10000 - cartridge.image.size, cartridge.image.size, 0⟩ memory := by
      unfold painted panes fixedPanes windowPane?
      rw [hmapper]
      rfl
    rw [hpainted, install_normal hmapper (by omega)]
    split
    · rename_i hempty
      have hcovers : ¬ Pane.Covers ⟨0x10000 - cartridge.image.size, cartridge.image.size, 0⟩
          address := fun hcovers => by
        have := hcovers.1
        have := hcovers.2
        dsimp only at *
        omega
      rw [read_paint hfits, isRom_paint hfits, if_neg hcovers, decide_eq_false hcovers]
      exact ⟨rfl, rfl⟩
    · have hpart : cartridge.part 0 cartridge.image.size = cartridge.image := by
        rw [part, Nat.zero_add, Array.extract_size]
      rw [paint, hpart]
      exact ⟨rfl, rfl⟩

theorem read_install (h : cartridge.Regular) (memory : Memory) (address : UInt16) :
    (cartridge.install memory).read address =
      if cartridge.InRam address then 0
      else (cartridge.through? (cartridge.panes cartridge.mapper.homeBank?) address).getD
        (memory.read address) := by
  rw [(install_painted h memory address).1, ← read_paintAll (fits_home h)]
  unfold painted
  dsimp only
  by_cases hram : cartridge.InRam address
  · rw [if_pos hram.1, Memory.read_clearRom, if_pos hram.2, if_pos hram]
  · rw [if_neg hram]
    split
    · rename_i hmapper
      rw [Memory.read_clearRom, if_neg fun hin => hram ⟨hmapper, hin⟩]
    · rfl

/-- Of all addresses those of cartridge space are protected, but for the cartridge's RAM. -/
def Protects (cartridge : Cartridge) (memory : Memory) : Prop :=
  ∀ address, memory.isRom address =
    decide (cartridgeStart ≤ address.toNat ∧ ¬ cartridge.InRam address)

theorem protects_install (h : cartridge.Regular) {memory : Memory}
    (hmemory : ∀ address, ¬ cartridge.InRam address →
      memory.isRom address = decide (cartridgeStart ≤ address.toNat)) :
    cartridge.Protects (cartridge.install memory) := by
  intro address
  rw [(install_painted h memory address).2]
  unfold painted
  dsimp only
  by_cases hram : cartridge.InRam address
  · rw [if_pos hram.1, Memory.isRom_clearRom, if_pos hram.2]
    simp [hram]
  · have hpainted : (cartridge.paintAll (cartridge.panes cartridge.mapper.homeBank?)
        memory).isRom address = decide (cartridgeStart ≤ address.toNat) := by
      rw [isRom_paintAll (fits_home h), hmemory address hram]
      refine Bool.or_eq_right_iff_imp.2 fun hany => ?_
      obtain ⟨pane, hmem, hcovers⟩ := List.any_eq_true.1 hany
      exact decide_eq_true
        (Nat.le_trans (fits_home h pane hmem).above (of_decide_eq_true hcovers).1)
    rw [decide_eq_decide.2 (and_iff_left hram), ← hpainted]
    split
    · rename_i hmapper
      rw [Memory.isRom_clearRom, if_neg fun hin => hram ⟨hmapper, hin⟩]
    · rfl

end

end Cartridge
end Console7800
