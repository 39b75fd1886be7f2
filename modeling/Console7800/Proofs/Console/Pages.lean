import Console7800.Proofs.Console.Banking

/-!
# The expansion module as eight pages

A history lists accesses with the last one first. The module's RAM holds, page by page, what a
history says was written last (`ExpansionModule.Recalls`): each cell belongs to one address of one
page, and an address reaches just the cell of the selected page (`decode?_eq_ram_iff`). One access
keeps that (`Recalls.serve`), whatever else answers on the bus.
-/

namespace Console7800

/-! ## What a history says -/

namespace Request

/-- What the control latch holds. -/
def latch : List Request → UInt8
  | [] => 0
  | .write address value :: earlier =>
    if 0x0470 ≤ address ∧ address ≤ 0x047F then value else latch earlier
  | .read _ :: earlier => latch earlier

/-- What was last written to an address while the RAM was on and a page was selected. -/
def lastWritten? (page : UInt8) (address : UInt16) : List Request → Option UInt8
  | [] => none
  | .write written value :: earlier =>
    if written = address ∧ latch earlier &&& 0x08 ≠ 0 ∧ latch earlier &&& 0x07 = page then
      some value
    else lastWritten? page address earlier
  | .read _ :: earlier => lastWritten? page address earlier

end Request

/-! ## Cells and pages -/

namespace ExpansionModule

/-- The page that a cell belongs to. -/
def pageOf (offset : Fin 131072) : UInt8 := .ofNat (offset / bankSize)

/-- The address at which a cell is seen. -/
def addressOf (offset : Fin 131072) : UInt16 := .ofNat (0x4000 + offset % bankSize)

theorem toNat_pageOf (offset : Fin 131072) : (pageOf offset).toNat = offset / bankSize := by
  have hlt : offset.val < 131072 := offset.isLt
  simp only [pageOf, bankSize, UInt8.toNat_ofNat']
  omega

theorem toNat_addressOf (offset : Fin 131072) :
    (addressOf offset).toNat = 0x4000 + offset % bankSize := by
  simp only [addressOf, bankSize, UInt16.toNat_ofNat']
  omega

variable {xm : ExpansionModule} {address : UInt16}

theorem toNat_selected (control : UInt8) : (control &&& 0x07).toNat = control.toNat % 8 := by
  rw [UInt8.toNat_and]
  exact Nat.and_two_pow_sub_one_eq_mod _ 3

theorem ramEnabled_iff : xm.ramEnabled = true ↔ xm.control &&& 0x08 ≠ 0 := bne_iff_ne

theorem decode?_ram_val {offset : Fin 131072} (h : xm.decode? address = some (.ram offset)) :
    xm.ramEnabled = true ∧ 0x4000 ≤ address.toNat ∧ address.toNat ≤ 0x7FFF ∧
      offset.val = xm.bank * bankSize + (address.toNat - 0x4000) := by
  unfold decode? at h
  split at h
  · split at h <;> cases h
  · split at h
    · cases h
    · split at h
      · rename_i hwindow
        dsimp only at h
        split at h
        · rename_i hon
          obtain rfl := Target.ram.inj (Option.some.inj h)
          exact ⟨hon, UInt16.le_iff_toNat_le.1 hwindow.1, UInt16.le_iff_toNat_le.1 hwindow.2, rfl⟩
        · cases h
      · cases h

/-- An address reaches the cell that is seen there in the selected page, and no other. -/
theorem decode?_eq_ram_iff {offset : Fin 131072} :
    xm.decode? address = some (.ram offset) ↔
      addressOf offset = address ∧ xm.control &&& 0x08 ≠ 0 ∧
        xm.control &&& 0x07 = pageOf offset := by
  rw [← ramEnabled_iff, ← UInt16.toNat_inj, ← UInt8.toNat_inj, toNat_addressOf, toNat_pageOf,
    toNat_selected]
  have hlt : offset.val < 131072 := offset.isLt
  constructor
  · intro h
    obtain ⟨hon, hlow, hhigh, hval⟩ := decode?_ram_val h
    simp only [bank, bankSize] at hval ⊢
    refine ⟨?_, hon, ?_⟩ <;> omega
  · rintro ⟨haddress, hon, hpage⟩
    simp only [bankSize] at haddress hpage
    have hlow : 0x4000 ≤ address := UInt16.le_iff_toNat_le.2 (by simp; omega)
    have hhigh : address < 0x8000 := UInt16.lt_iff_toNat_lt.2 (by simp; omega)
    obtain ⟨other, hother⟩ := xm.decode?_ram hlow hhigh hon
    obtain ⟨-, -, -, hval⟩ := decode?_ram_val hother
    simp only [bank, bankSize] at hval
    obtain rfl : other = offset := Fin.ext (by omega)
    exact hother

theorem readRam_writeRam (xm : ExpansionModule) (offset other : Fin 131072) (value : UInt8) :
    (xm.writeRam offset value).readRam other =
      if offset = other then value else xm.readRam other := by
  simp [readRam, writeRam, Vector.getElem_set, Fin.ext_iff]

/-- What a write makes of the module. -/
def taking (xm : ExpansionModule) (address : UInt16) (value : UInt8) : ExpansionModule :=
  match xm.decode? address with
  | some (.ram offset) => xm.writeRam offset value
  | some .control => { xm with control := value }
  | some (.pokey _) => xm
  | none => xm

theorem control_taking (xm : ExpansionModule) (address : UInt16) (value : UInt8) :
    (xm.taking address value).control =
      if 0x0470 ≤ address ∧ address ≤ 0x047F then value else xm.control := by
  simp only [← xm.decode?_eq_control_iff]
  unfold taking
  cases htarget : xm.decode? address with
  | none => rfl
  | some target => cases target <;> rfl

theorem readRam_taking (xm : ExpansionModule) (address : UInt16) (value : UInt8)
    (offset : Fin 131072) :
    (xm.taking address value).readRam offset =
      if xm.decode? address = some (.ram offset) then value else xm.readRam offset := by
  unfold taking
  cases htarget : xm.decode? address with
  | none => rfl
  | some target =>
    cases target with
    | ram reached => simp only [readRam_writeRam, Option.some.injEq, Target.ram.injEq]
    | control => rfl
    | pokey => rfl

/-- A write does not reach the RAM while it is off. -/
theorem ram_taking (xm : ExpansionModule) (hoff : xm.control &&& 0x08 = 0) (address : UInt16)
    (value : UInt8) : (xm.taking address value).ram = xm.ram := by
  unfold taking
  cases htarget : xm.decode? address with
  | none => rfl
  | some target =>
    cases target with
    | ram offset => exact absurd hoff (decode?_eq_ram_iff.1 htarget).2.1
    | control | pokey => rfl

/-! ## The module and a history -/

/-- The module is as a history has it. -/
structure Recalls (xm : ExpansionModule) (history : List Request) : Prop where
  control : xm.control = Request.latch history
  readRam : ∀ offset, xm.readRam offset =
    (Request.lastWritten? (pageOf offset) (addressOf offset) history).getD 0

variable {history : List Request}

theorem recalls_powerOn : powerOn.Recalls [] where
  control := rfl
  readRam offset := by simp [readRam, powerOn, Request.lastWritten?]

theorem Recalls.taking (h : xm.Recalls history) (address : UInt16) (value : UInt8) :
    (xm.taking address value).Recalls (.write address value :: history) where
  control := by rw [control_taking, h.control, Request.latch]
  readRam offset := by
    rw [readRam_taking, h.readRam, Request.lastWritten?, ← h.control]
    simp only [decode?_eq_ram_iff, eq_comm (a := address)]
    split <;> rfl

end ExpansionModule

/-! ## The module on a bus -/

namespace SystemBus

variable {σ : Type} [SoundChip σ] {bus : SystemBus σ} {address : UInt16}

theorem xm_writeConsole (bus : SystemBus σ) (address : UInt16) (value : UInt8) :
    (bus.writeConsole address value).xm = bus.xm := by
  unfold writeConsole
  split
  · rfl
  · split
    · unfold romWrite
      split <;> rfl
    · unfold writeRegister installCartridge installBoot
      repeat' split
      all_goals rfl

theorem xm_read (bus : SystemBus σ) (address : UInt16) : (bus.read address).2.xm = bus.xm := by
  unfold read
  split
  · rfl
  · rfl
  · unfold readConsole
    split
    · rfl
    · split <;> rfl

theorem xm_write {xm : ExpansionModule} (hxm : bus.xm = some xm) (address : UInt16)
    (value : UInt8) : (bus.write address value).xm = some (xm.taking address value) := by
  unfold write ExpansionModule.taking
  rw [moduleTarget?_eq hxm]
  cases xm.decode? address with
  | none => exact (bus.xm_writeConsole address value).trans hxm
  | some target =>
    cases target with
    | pokey => exact hxm
    | ram | control => exact congrArg (Option.map _) hxm

/-- One access keeps the module as the history has it. -/
theorem recalls_serve {xm : ExpansionModule} {history : List Request} (hxm : bus.xm = some xm)
    (h : xm.Recalls history) (request : Request) :
    ∃ after, (bus.serve request).xm = some after ∧ after.Recalls (request :: history) := by
  cases request with
  | read address => exact ⟨xm, (bus.xm_read address).trans hxm, h.control, h.readRam⟩
  | write address value =>
    exact ⟨xm.taking address value, xm_write hxm address value, h.taking address value⟩

theorem recalls_run (hxm : bus.xm = some .powerOn) (requests : List Request) :
    ∃ xm, (requests.foldl serve bus).xm = some xm ∧ xm.Recalls requests.reverse := by
  -- by induction on the history: its head is the access that came last
  rw [← List.foldr_reverse]
  induction requests.reverse with
  | nil => exact ⟨_, hxm, ExpansionModule.recalls_powerOn⟩
  | cons request earlier ih =>
    obtain ⟨xm, hafter, hrecalls⟩ := ih
    exact recalls_serve hafter hrecalls request

theorem write_moduleRam {xm : ExpansionModule} {offset : Fin 131072} (hxm : bus.xm = some xm)
    (htarget : xm.decode? address = some (.ram offset)) (value : UInt8) :
    bus.write address value = { bus with xm := (bus.write address value).xm } := by
  unfold write
  rw [moduleTarget?_eq hxm, htarget]
  rfl

theorem read_moduleRam {xm : ExpansionModule} {offset : Fin 131072} (hxm : bus.xm = some xm)
    (htarget : xm.decode? address = some (.ram offset)) :
    bus.read address = (xm.readRam offset, bus) := by
  unfold read
  rw [moduleTarget?_eq hxm, htarget, hxm]

theorem ram_serve {xm : ExpansionModule} (hxm : bus.xm = some xm)
    (hoff : xm.control &&& 0x08 = 0) (request : Request) :
    (bus.serve request).xm.map (·.ram) = bus.xm.map (·.ram) := by
  cases request with
  | read address => exact congrArg _ (bus.xm_read address)
  | write address value =>
    rw [serve, xm_write hxm, hxm, Option.map_some, Option.map_some, xm.ram_taking hoff]

/-- From power-on of the expansion module on, after any reads and writes: with the module's RAM on,
an address shows what was last written there to the selected page, and a write there reaches nothing
but the module; with the RAM off, no access changes a page. No bank is beyond the RAM. -/
theorem pages_of_powerOn {start : SystemBus σ} (hxm : start.xm = some .powerOn)
    (requests : List Request) :
    let bus := requests.foldl serve start
    let history := requests.reverse
    let latch := Request.latch history
    (∀ address : UInt16, 0x4000 ≤ address → address ≤ 0x7FFF → latch &&& 0x08 ≠ 0 →
        (bus.read address).1 =
            (Request.lastWritten? (latch &&& 0x07) address history).getD 0 ∧
          ∀ value, bus.write address value = { bus with xm := (bus.write address value).xm }) ∧
      (latch &&& 0x08 = 0 →
        ∀ request, (bus.serve request).xm.map (·.ram) = bus.xm.map (·.ram)) ∧
      ∀ (xm : ExpansionModule) (address : UInt16) (offset : Fin 131072),
        xm.decode? address = some (.ram offset) →
          offset.val = (xm.control &&& 0x07).toNat * 16384 + (address.toNat - 0x4000) ∧
            offset.val < 131072 := by
  intro bus history latch
  obtain ⟨xm, hbus, hrecalls⟩ := recalls_run hxm requests
  have hlatch : xm.control = latch := hrecalls.control
  refine ⟨fun address hlow hhigh hon => ?_, fun hoff => ram_serve hbus (by rw [hlatch, hoff]),
    fun xm address offset htarget => ?_⟩
  · rw [← hlatch] at hon ⊢
    have hbelow : address < 0x8000 := UInt16.lt_of_le_of_lt hhigh (by decide)
    obtain ⟨offset, htarget⟩ := xm.decode?_ram hlow hbelow (ExpansionModule.ramEnabled_iff.2 hon)
    obtain ⟨haddress, -, hpage⟩ := ExpansionModule.decode?_eq_ram_iff.1 htarget
    refine ⟨?_, write_moduleRam hbus htarget⟩
    rw [read_moduleRam hbus htarget, hpage, ← haddress]
    exact hrecalls.readRam offset
  · obtain ⟨-, -, -, hval⟩ := ExpansionModule.decode?_ram_val htarget
    rw [ExpansionModule.toNat_selected]
    exact ⟨hval, offset.isLt⟩

end SystemBus

/-! ## A console with an expansion module -/

namespace Console

variable {μ σ : Type} [SoundChip σ] [DisplayChip μ]

theorem xm_reset {console : Console μ σ} (hfits : ∀ cart ∈ console.highScore, cart.Fits)
    (hexpansion : console.cartridge?.any (·.expansion)) :
    console.reset.board.bus.xm = some .powerOn := by
  rw [reset_eq hfits]
  exact (xm_powerOnBus _).trans (if_pos hexpansion)

/-- A console whose cartridge asks for an expansion module. -/
def expandedConsole : Console IdleDisplay SilentSound :=
  (fresh {} {} {} {}).mounting
    { Cartridge.ofImage blankFile with mapper := .normal, expansion := true }

/-- One address is written in page 2, then in page 3, and page 2 is selected again. -/
def pageSwitches : List Request :=
  [.write 0x0470 0x0A, .write 0x4000 5, .write 0x0470 0x0B, .write 0x4000 6, .write 0x0470 0x0A]

theorem pages_of_powerOn_expandedConsole :
    let bus := pageSwitches.foldl SystemBus.serve expandedConsole.reset.board.bus
    (bus.read 0x4000).1 = 5 ∧
      bus.write 0x4000 7 = { bus with xm := (bus.write 0x4000 7).xm } := by
  have hxm : expandedConsole.reset.board.bus.xm = some .powerOn :=
    xm_reset (fun _ hmem => by cases hmem) rfl
  obtain ⟨hpages, -, -⟩ := SystemBus.pages_of_powerOn hxm pageSwitches
  obtain ⟨hread, hwrite⟩ := hpages 0x4000 (by decide) (by decide) (by decide)
  have hlast : (Request.lastWritten? (Request.latch pageSwitches.reverse &&& 0x07) 0x4000
      pageSwitches.reverse).getD 0 = 5 := by decide
  exact ⟨hread.trans hlast, hwrite 7⟩

end Console
end Console7800
