import Console7800.Proofs.Cartridge.Reach
import Console7800.Proofs.SystemBus.Coherent

/-!
# How a cartridge lies in cartridge space

A cartridge that is mapped settles what is shown and protected from $4000 up, but for two ranges:
the window, where a bank can be, and the cartridge's own RAM. Nothing that a program does changes
anything else there: `Mapped` is what is left of the layout at power-on.
-/

namespace Console7800

theorem Mapper.cartridgeStart_le_window {mapper : Mapper} {window : UInt16}
    (h : mapper.window? = some window) : cartridgeStart ≤ window.toNat := by
  cases mapper <;> cases h <;> decide

namespace Cartridge

open Memory (Within)

variable {cartridge : Cartridge} {memory : Memory}

/-- Where banks are seen. -/
def InWindow (cartridge : Cartridge) (address : UInt16) : Prop :=
  0 < cartridge.image.size ∧ ∃ window ∈ cartridge.mapper.window?, Within window bankSize address

/-- Where the cartridge has RAM. -/
def InRam (cartridge : Cartridge) (address : UInt16) : Prop :=
  cartridge.mapper = .supercartRam ∧ Within 0x4000 bankSize address

/-- Cartridge space is as at power-on, but for the window and the cartridge's RAM. -/
structure Mapped (cartridge : Cartridge) (memory : Memory) : Prop where
  isRom : ∀ address : UInt16, cartridgeStart ≤ address.toNat →
    memory.isRom address = (cartridge.install .powerOn).isRom address
  read : ∀ address : UInt16, cartridgeStart ≤ address.toNat → ¬ cartridge.InWindow address →
    ¬ cartridge.InRam address → memory.read address = (cartridge.install .powerOn).read address

/-- The window shows the bank that is recorded. -/
def ShowsBank (cartridge : Cartridge) (memory : Memory) : Prop :=
  ∀ window ∈ cartridge.mapper.window?, ∀ address,
    Within window (cartridge.part (cartridge.bankOffset cartridge.bank) bankSize).size address →
      memory.read address =
        (cartridge.part (cartridge.bankOffset cartridge.bank) bankSize).getD
          (address.toNat - window.toNat) 0

theorem size_part (cartridge : Cartridge) (offset count : Nat) :
    (cartridge.part offset count).size = min (offset + count) cartridge.image.size - offset := by
  rw [part, Array.size_extract]

theorem bankOffset_zero (cartridge : Cartridge) : cartridge.bankOffset 0 = 0 := by
  unfold bankOffset
  dsimp only
  split <;> rfl

/-- In an image of whole banks each one has its place, the few banks of small supercarts too. -/
theorem bankOffset_eq {count : Nat} (hsize : cartridge.image.size = count * bankSize)
    {bank : UInt8} (hbank : bank.toNat < count) :
    cartridge.bankOffset bank = bank.toNat * bankSize := by
  unfold bankOffset
  dsimp only
  split
  · rename_i hsmall
    have hle := hsmall.2
    rw [hsize] at hle
    simp only [bankSize] at hle
    rw [Nat.mod_eq_of_lt (by omega)]
  · rfl

theorem selects_of_lt {count : Nat} (hsize : cartridge.image.size = count * bankSize)
    (hwindow : cartridge.mapper.window?.isSome) {bank : UInt8} (hbank : bank.toNat < count) :
    cartridge.Selects bank := by
  refine ⟨hwindow, ?_⟩
  rw [bankOffset_eq hsize hbank, hsize]
  exact Nat.mul_lt_mul_of_pos_right hbank (by decide)

/-! ## The layout at power-on -/

/-- The layout is put together from copies of parts of the image and, for a cartridge with RAM, a
clearing of that RAM. -/
theorem install_induction {P : (Memory → Memory) → Prop} (cartridge : Cartridge)
    (keep : P fun memory => memory)
    (copy : ∀ {f} (start : UInt16) (data : Bytes), P f → P fun memory =>
      (f memory).writeRom start data)
    (clear : ∀ {f}, cartridge.mapper = .supercartRam → P f → P fun memory =>
      (f memory).clearRom 0x4000 bankSize) : P cartridge.install := by
  unfold install
  dsimp only
  cases hmapper : cartridge.mapper with
  | normal | supercart =>
    dsimp only
    split
    · exact keep
    · exact copy _ _ keep
  | supercartLarge | supercartRom =>
    dsimp only
    split
    · exact keep
    · exact copy _ _ (copy _ _ keep)
  | supercartRam =>
    dsimp only
    split
    · exact keep
    · exact clear hmapper (copy _ _ keep)
  | absolute => exact copy _ _ (copy _ _ keep)
  | activision =>
    dsimp only
    split
    · exact keep
    · exact copy _ _ (copy _ _ (copy _ _ (copy _ _ (copy _ _ keep))))

/-- Of cartridge space only the cartridge's RAM is writable. -/
theorem inRam_of_writable {address : UInt16} (habove : cartridgeStart ≤ address.toNat)
    (h : (cartridge.install .powerOn).isRom address = false) : cartridge.InRam address := by
  suffices cartridge.InRam address ∨ (cartridge.install .powerOn).isRom address = true from
    this.resolve_right (by simp [h])
  refine cartridge.install_induction
    (P := fun f => cartridge.InRam address ∨ (f .powerOn).isRom address = true)
    ?keep (fun start data hf => ?copy) fun hmapper hf => ?clear
  case keep => exact .inr (by rw [Memory.isRom_powerOn, decide_eq_true habove])
  case copy => exact hf.imp_right fun hrom => by rw [Memory.isRom_writeRom, hrom, ite_self]
  case clear =>
    by_cases hin : Within 0x4000 bankSize address
    · exact .inl ⟨hmapper, hin⟩
    · exact hf.imp_right fun hrom => by rw [Memory.isRom_clearRom, if_neg hin, hrom]

/-- The window lies in cartridge space, and apart from the RAM. -/
theorem InWindow.apart {address : UInt16} (h : cartridge.InWindow address) :
    cartridgeStart ≤ address.toNat ∧ ¬ cartridge.InRam address := by
  obtain ⟨-, window, hwindow, hstart, -⟩ := h
  refine ⟨Nat.le_trans (Mapper.cartridgeStart_le_window hwindow) hstart, fun hram => ?_⟩
  · rw [hram.1] at hwindow
    obtain rfl : 0x8000 = window := Option.some.inj hwindow
    have hend := hram.2.2
    simp [bankSize] at hstart hend
    omega

theorem inWindow_of_bank {window address : UInt16} (hwindow : window ∈ cartridge.mapper.window?)
    {bank : UInt8}
    (h : Within window (cartridge.part (cartridge.bankOffset bank) bankSize).size address) :
    cartridge.InWindow address := by
  obtain ⟨hstart, hend⟩ := h
  rw [size_part] at hend
  exact ⟨by omega, window, hwindow, hstart, by omega⟩

/-- An image that is made of whole banks has all of a bank that starts inside it. -/
theorem whole_of_dvd (hbanks : bankSize ∣ cartridge.image.size) {bank : UInt8}
    (hinside : cartridge.bankOffset bank < cartridge.image.size) :
    cartridge.bankOffset bank + bankSize ≤ cartridge.image.size := by
  obtain ⟨number, hnumber⟩ : bankSize ∣ cartridge.bankOffset bank := by
    unfold bankOffset
    dsimp only
    split <;> exact Nat.dvd_mul_left ..
  obtain ⟨count, hcount⟩ := hbanks
  rw [hnumber, hcount] at hinside ⊢
  rw [← Nat.mul_succ]
  exact Nat.mul_le_mul_left _ (Nat.lt_of_mul_lt_mul_left hinside)

theorem bank_of_inWindow {address : UInt16} (hbanks : bankSize ∣ cartridge.image.size)
    {bank : UInt8} (hbank : bank = 0 ∨ cartridge.Selects bank) (h : cartridge.InWindow address) :
    ∃ window ∈ cartridge.mapper.window?,
      Within window (cartridge.part (cartridge.bankOffset bank) bankSize).size address := by
  obtain ⟨hpos, window, hwindow, hin⟩ := h
  have hinside : cartridge.bankOffset bank < cartridge.image.size := by
    rcases hbank with rfl | hselects
    · rwa [bankOffset_zero]
    · exact hselects.2
  refine ⟨window, hwindow, ?_⟩
  rwa [size_part, Nat.min_eq_left (whole_of_dvd hbanks hinside), Nat.add_sub_cancel_left]

theorem isRom_window {address : UInt16} (h : cartridge.InWindow address) :
    (cartridge.install .powerOn).isRom address = true :=
  eq_true_of_ne_false fun hflag => h.apart.2 (inRam_of_writable h.apart.1 hflag)

theorem read_install_supercart (hmapper : cartridge.mapper = .supercart) (memory : Memory)
    {address : UInt16} (h : address < 0xC000) :
    (cartridge.install memory).read address = memory.read address := by
  unfold install
  simp only [hmapper]
  split
  · rfl
  · have hbelow : ¬ (0xC000 : UInt16).toNat ≤ address.toNat :=
      Nat.not_le.2 (UInt16.lt_iff_toNat_lt.1 h)
    rw [Memory.read_writeRom, if_neg fun hin => hbelow hin.1]

/-- Where a flat image starts. -/
def flatStart (cartridge : Cartridge) : UInt16 := .ofNat (0x10000 - cartridge.image.size)

section

variable (hmapper : cartridge.mapper = .normal) (hsize : cartridge.image.size ≤ 0x10000)
  (memory : Memory) (address : UInt16)

include hmapper hsize

theorem install_normal :
    cartridge.install memory =
      if cartridge.image.size = 0 then memory
      else memory.writeRom cartridge.flatStart cartridge.image := by
  unfold install
  simp only [hmapper, Nat.min_eq_left hsize, part, Nat.sub_self, Nat.zero_add, Array.extract_size]
  rfl

theorem read_install_normal :
    (cartridge.install memory).read address =
      if Within cartridge.flatStart cartridge.image.size address then
        cartridge.image.getD (address.toNat - cartridge.flatStart.toNat) 0
      else memory.read address := by
  rw [install_normal hmapper hsize]
  split
  · rename_i hempty
    rw [hempty, if_neg (Memory.not_within_zero _ _)]
  · exact Memory.read_writeRom ..

theorem isRom_install_normal :
    (cartridge.install memory).isRom address =
      if Within cartridge.flatStart cartridge.image.size address then true
      else memory.isRom address := by
  rw [install_normal hmapper hsize]
  split
  · rename_i hempty
    rw [hempty, if_neg (Memory.not_within_zero _ _)]
  · exact Memory.isRom_writeRom ..

end

theorem toNat_flatStart (hpos : 0 < cartridge.image.size) :
    cartridge.flatStart.toNat = 0x10000 - cartridge.image.size := by
  rw [flatStart, UInt16.toNat_ofNat']
  refine Nat.mod_eq_of_lt ?_
  omega

theorem above_of_flat (hsize : cartridge.image.size ≤ 0xC000) {address : UInt16}
    (h : Within cartridge.flatStart cartridge.image.size address) :
    cartridgeStart ≤ address.toNat := by
  obtain ⟨hstart, hend⟩ := h
  rw [toNat_flatStart (by omega)] at hstart
  unfold cartridgeStart
  omega

theorem last_flat (hpos : 0 < cartridge.image.size) (hsize : cartridge.image.size ≤ 0x10000) :
    Within cartridge.flatStart cartridge.image.size 0xFFFF := by
  have hlast : (0xFFFF : UInt16).toNat = 0xFFFF := rfl
  unfold Within
  rw [toNat_flatStart hpos, hlast]
  omega

/-! ## What is left of it -/

theorem mapped_install_powerOn (cartridge : Cartridge) :
    cartridge.Mapped (cartridge.install .powerOn) := ⟨fun _ _ => rfl, fun _ _ _ _ => rfl⟩

namespace Mapped

/-- Nothing is writable in cartridge space but the window and the cartridge's RAM, so what keeps
protected bytes keeps the layout. -/
theorem of_sameProtected (h : cartridge.Mapped memory) {after : Memory}
    (hsame : after.SameProtected memory) : cartridge.Mapped after := by
  refine ⟨fun address habove => (hsame address habove).1.trans (h.isRom address habove),
    fun address habove hwindow hram => ?_⟩
  have hprotected : memory.isRom address = true := by
    rw [h.isRom address habove]
    exact eq_true_of_ne_false fun hflag => hram (inRam_of_writable habove hflag)
  rw [(hsame address habove).2 hprotected, h.read address habove hwindow hram]

theorem install (h : cartridge.Mapped memory) : cartridge.Mapped (cartridge.install memory) := by
  have hoverlays := cartridge.overlays_install
  refine ⟨fun address habove => ?_, fun address habove hwindow hram => ?_⟩
  all_goals by_cases hreached : cartridge.Reaches address
  · exact (hoverlays.eq_inside hreached memory .powerOn).2
  · rw [(hoverlays.outside address hreached memory).2, h.isRom address habove]
  · exact (hoverlays.eq_inside hreached memory .powerOn).1
  · rw [(hoverlays.outside address hreached memory).1, h.read address habove hwindow hram]

theorem writeRom (h : cartridge.Mapped memory) {start : UInt16} {data : Bytes}
    (hin : ∀ address, Within start data.size address → cartridge.InWindow address) :
    cartridge.Mapped (memory.writeRom start data) := by
  refine ⟨fun address habove => ?_, fun address habove hwindow hram => ?_⟩
  · rw [Memory.isRom_writeRom]
    split
    · rename_i hpart
      exact (isRom_window (hin address hpart)).symm
    · exact h.isRom address habove
  · rw [Memory.read_writeRom, if_neg fun hpart => hwindow (hin address hpart)]
    exact h.read address habove hwindow hram

theorem selectBank (h : cartridge.Mapped memory) (bank : UInt8) :
    (cartridge.selectBank memory bank).1.Mapped (cartridge.selectBank memory bank).2 := by
  by_cases hselects : cartridge.Selects bank
  · obtain ⟨window, hw⟩ := Option.isSome_iff_exists.1 hselects.1
    unfold Cartridge.selectBank
    simp only [hw, if_pos hselects.2]
    have hmapped := h.writeRom fun address => @inWindow_of_bank cartridge window address hw bank
    exact ⟨hmapped.isRom, hmapped.read⟩
  · rw [selectBank_of_not_selects memory hselects]
    exact h

theorem loadRam (h : cartridge.Mapped memory) (hmapper : cartridge.mapper = .supercartRam)
    {data : Bytes} (hsize : data.size ≤ bankSize) : cartridge.Mapped (memory.load 0x4000 data) := by
  refine ⟨fun address habove => ?_, fun address habove hwindow hram => ?_⟩
  · rw [Memory.isRom_load, h.isRom address habove]
  · have hout : ¬ Within 0x4000 data.size address := fun hin =>
      hram ⟨hmapper, hin.1, Nat.lt_of_lt_of_le hin.2 (by omega)⟩
    rw [Memory.read_load, if_neg hout, h.read address habove hwindow hram]

end Mapped

/-! ## The window -/

theorem ShowsBank.of_sameProtected {after : Memory} (h : cartridge.ShowsBank memory)
    (hmapped : cartridge.Mapped memory) (hsame : after.SameProtected memory) :
    cartridge.ShowsBank after := fun window hwindow address hin => by
  have hinside := inWindow_of_bank hwindow hin
  have hprotected := (hmapped.isRom address hinside.apart.1).trans (isRom_window hinside)
  rw [(hsame address hinside.apart.1).2 hprotected, h window hwindow address hin]

theorem ShowsBank.read_eq {first second : Memory} (hfirst : cartridge.ShowsBank first)
    (hsecond : cartridge.ShowsBank second) (hbanks : bankSize ∣ cartridge.image.size)
    (hbank : cartridge.bank = 0 ∨ cartridge.Selects cartridge.bank) {address : UInt16}
    (h : cartridge.InWindow address) : first.read address = second.read address := by
  obtain ⟨window, hwindow, hin⟩ := bank_of_inWindow hbanks hbank h
  rw [hfirst window hwindow address hin, hsecond window hwindow address hin]

theorem ShowsBank.of_window {first second : Memory} (hfirst : cartridge.ShowsBank first)
    (h : ∀ address, cartridge.InWindow address → second.read address = first.read address) :
    cartridge.ShowsBank second := fun window hwindow address hin =>
  (h address (inWindow_of_bank hwindow hin)).trans (hfirst window hwindow address hin)

/-- Where there is no bank to show, any window shows it. -/
theorem showsBank_of_not_selects (h : ¬ cartridge.Selects cartridge.bank) (memory : Memory) :
    cartridge.ShowsBank memory := by
  intro window hwindow address hin
  refine absurd ⟨Option.isSome_of_eq_some hwindow, ?_⟩ h
  obtain ⟨hstart, hend⟩ := hin
  rw [size_part] at hend
  omega

theorem showsBank_selectBank (memory : Memory) {bank : UInt8} (h : cartridge.Selects bank) :
    (cartridge.selectBank memory bank).1.ShowsBank (cartridge.selectBank memory bank).2 := by
  obtain ⟨hwindow, hoffset⟩ := h
  obtain ⟨window, hw⟩ := Option.isSome_iff_exists.1 hwindow
  unfold selectBank
  simp only [hw, if_pos hoffset]
  intro other hother address hin
  obtain rfl : window = other := Option.some.inj (hw.symm.trans hother)
  rw [Memory.read_writeRom]
  exact if_pos hin

end Cartridge
end Console7800
