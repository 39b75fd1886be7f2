import Console7800.Proofs.Cartridge.BankModel
import Console7800.Proofs.Console.PowerCycle

/-!
# A console shows what the bank model says

After a reset without a boot ROM, and after any reads and writes, cartridge space shows what the
bank model makes of the same reads and writes. One access keeps `Refines` (`Refines.serve`), so any
number of them do (`Refines.run`).
-/

namespace Console7800

namespace SystemBus

variable {σ : Type}

/-- Nothing happens to what the bank model tells of. -/
structure Unseen (bus after : SystemBus σ) : Prop where
  boot_eq : after.boot = bus.boot
  cartridge_eq : after.cartridge = bus.cartridge
  control_eq : after.xm.map (·.control) = bus.xm.map (·.control)
  isRom : ∀ address, after.memory.isRom address = bus.memory.isRom address
  read : ∀ address : UInt16, cartridgeStart ≤ address.toNat →
    after.memory.read address = bus.memory.read address

/-- The bus holds the cartridge, without a boot ROM, and shows in cartridge space what the model
says. -/
structure Refines (cartridge : Cartridge) (model : BankModel) (bus : SystemBus σ) : Prop where
  boot_eq : bus.boot = none
  cartridge_eq : ∃ bank, bus.cartridge = some { cartridge with bank }
  control_eq : bus.xm.map (·.control) = if cartridge.expansion then some model.control else none
  protects : cartridge.Protects bus.memory
  shows : ∀ address : UInt16, cartridgeStart ≤ address.toNat →
    bus.memory.read address = cartridge.shown model address

variable {cartridge : Cartridge} {model : BankModel} {bus after : SystemBus σ}

theorem Refines.unseen (h : Refines cartridge model bus) (hsame : Unseen bus after) :
    Refines cartridge model after where
  boot_eq := hsame.boot_eq.trans h.boot_eq
  cartridge_eq := hsame.cartridge_eq ▸ h.cartridge_eq
  control_eq := hsame.control_eq.trans h.control_eq
  protects address := (hsame.isRom address).trans (h.protects address)
  shows address habove := (hsame.read address habove).trans (h.shows address habove)

/-! ## What is not seen -/

namespace Unseen

theorem refl (bus : SystemBus σ) : Unseen bus bus := ⟨rfl, rfl, rfl, fun _ => rfl, fun _ _ => rfl⟩

theorem trans {last : SystemBus σ} (h₁ : Unseen bus after) (h₂ : Unseen after last) :
    Unseen bus last where
  boot_eq := h₂.boot_eq.trans h₁.boot_eq
  cartridge_eq := h₂.cartridge_eq.trans h₁.cartridge_eq
  control_eq := h₂.control_eq.trans h₁.control_eq
  isRom address := (h₂.isRom address).trans (h₁.isRom address)
  read address habove := (h₂.read address habove).trans (h₁.read address habove)

theorem mapTia [SoundChip σ] (bus : SystemBus σ) (f : σ → σ) : Unseen bus (bus.mapTia f) :=
  ⟨rfl, rfl, rfl, fun _ => rfl, fun _ _ => rfl⟩

theorem mapPokey [SoundChip σ] (bus : SystemBus σ) (f : σ → σ) : Unseen bus (bus.mapPokey f) :=
  ⟨rfl, rfl, rfl, fun _ => rfl, fun _ _ => rfl⟩

theorem mapRiot (bus : SystemBus σ) (f : Riot → Riot) : Unseen bus (bus.mapRiot f) :=
  ⟨rfl, rfl, rfl, fun _ => rfl, fun _ _ => rfl⟩

theorem writeRam (bus : SystemBus σ) (offset : Fin 131072) (value : UInt8) :
    Unseen bus (bus.mapModule (·.writeRam offset value)) := by
  refine ⟨rfl, rfl, ?_, fun _ => rfl, fun _ _ => rfl⟩
  show (bus.xm.map _).map _ = _
  rw [Option.map_map]
  rfl

theorem poke (bus : SystemBus σ) {address : UInt16} (value : UInt8) (h : address < 0x4000) :
    Unseen bus (bus.mapMemory (·.poke address value)) :=
  have hsame := Memory.sameAbove_poke bus.memory value (UInt16.lt_iff_toNat_lt.1 h)
  ⟨rfl, rfl, rfl, fun _ => Memory.isRom_poke .., fun other habove => (hsame other habove).1⟩

theorem store (bus : SystemBus σ) {address : UInt16} (value : UInt8) (h : address < 0x4000) :
    Unseen bus (bus.mapMemory (·.store address value)) :=
  have hsame := Memory.sameAbove_store bus.memory value (UInt16.lt_iff_toNat_lt.1 h)
  ⟨rfl, rfl, rfl, fun _ => Memory.isRom_store .., fun other habove => (hsame other habove).1⟩

variable [SoundChip σ]

theorem readPokey (bus : SystemBus σ) (register : UInt8) : Unseen bus (bus.readPokey register).2 :=
  mapPokey bus fun chip => (SoundChip.read chip register).2

theorem readAt (bus : SystemBus σ) (address : UInt16) : Unseen bus (bus.read address).2 := by
  unfold SystemBus.read
  split
  · exact readPokey bus _
  · exact refl bus
  · unfold readConsole
    split
    · exact readPokey bus _
    · split
      · exact mapRiot bus fun riot => (riot.read address).2
      · exact refl bus

/-- Below cartridge space only a write that maps the cartridge again is seen. -/
theorem writeRegister (hboot : bus.boot = none) {address : UInt16} (hlow : address < 0x4000)
    {value : UInt8} (hmap : ¬ (address = inputControl ∧ value = mapCartridge)) :
    Unseen bus (bus.writeRegister address value) := by
  unfold SystemBus.writeRegister
  split
  · exact poke bus 1 (by decide)
  · split
    · rename_i haddress
      rw [if_neg fun hvalue => hmap ⟨haddress, hvalue⟩]
      split
      · rw [installBoot_of_none hboot]
        exact refl bus
      · exact refl bus
    · split
      · exact refl bus
      · split
        · exact (mapTia bus _).trans (poke _ value hlow)
        · split
          · exact mapRiot bus _
          · exact store bus value hlow

end Unseen

/-! ## Writes -/

theorem Refines.exists_module (h : Refines cartridge model bus) (hexpansion : cartridge.expansion) :
    ∃ xm, bus.xm = some xm ∧ xm.control = model.control := by
  have hcontrol := h.control_eq
  rw [if_pos hexpansion] at hcontrol
  exact Option.map_eq_some_iff.1 hcontrol

theorem Refines.expansion (h : Refines cartridge model bus) {xm : ExpansionModule}
    (hxm : bus.xm = some xm) : cartridge.expansion = true ∧ xm.control = model.control := by
  have hcontrol := h.control_eq
  rw [hxm] at hcontrol
  cases hexpansion : cartridge.expansion with
  | true =>
    rw [hexpansion, if_pos rfl] at hcontrol
    exact ⟨rfl, Option.some.inj hcontrol⟩
  | false => simp [hexpansion] at hcontrol

theorem Refines.installCartridge (hregular : cartridge.Regular) (h : Refines cartridge model bus) :
    Refines cartridge (model.mappedAgain cartridge) bus.installCartridge := by
  obtain ⟨bank, hc⟩ := h.cartridge_eq
  obtain ⟨hboot, hcartridge, hcontrol, hprotects, hshows⟩ := h
  rw [installCartridge_eq hc]
  refine ⟨hboot, hcartridge, hcontrol, ?_, fun address habove => ?_⟩
  · refine Cartridge.protects_install hregular fun address hram => ?_
    rw [hprotects, decide_eq_decide.2 (and_iff_left hram)]
  · exact Cartridge.shown_mappedAgain hregular (hshows address habove)

theorem Refines.latch (h : Refines cartridge model bus) {address : UInt16}
    (htarget : bus.moduleTarget? address = some .control) :
    cartridge.expansion = true ∧ 0x0470 ≤ address ∧ address ≤ 0x047F := by
  unfold moduleTarget? at htarget
  split at htarget
  · rename_i xm hxm
    exact ⟨(h.expansion hxm).1, xm.decode?_eq_control_iff.1 htarget⟩
  · cases htarget

theorem Refines.store (h : Refines cartridge model bus) {address : UInt16}
    (hram : cartridge.InRam address) (value : UInt8) :
    Refines cartridge
      { model with ram := fun other => if other = address then value else model.ram other }
      (bus.mapMemory (·.store address value)) := by
  have habove : cartridgeStart ≤ address.toNat := hram.2.1
  refine ⟨h.boot_eq, h.cartridge_eq, h.control_eq,
    fun other => (Memory.isRom_store ..).trans (h.protects other), fun other hother => ?_⟩
  show (bus.memory.store address value).read other = _
  rw [Memory.store_above _ value habove, Memory.read_poke, h.shows other hother]
  unfold Cartridge.shown
  by_cases hsame : address = other
  · subst hsame
    simp [hram]
  · simp [hsame, Ne.symm hsame]

theorem Refines.romWrite (hregular : cartridge.Regular) (h : Refines cartridge model bus)
    (address : UInt16) (value : UInt8) :
    Refines cartridge
      (match cartridge.mapper.select? cartridge.banks address value with
        | some bank => { model with bank := some bank }
        | none => model)
      (bus.romWrite address value) := by
  obtain ⟨bank, hc⟩ := h.cartridge_eq
  have hregular' : Cartridge.Regular { cartridge with bank } := hregular
  rw [romWrite_mounted hc]
  cases hselect : cartridge.mapper.select? cartridge.banks address value with
  | none =>
    rw [Cartridge.romWrite_of_not_select hregular' hselect]
    exact ⟨h.boot_eq, ⟨bank, rfl⟩, h.control_eq, h.protects, h.shows⟩
  | some selected =>
    have hlt := (Cartridge.selectedBank?_of_select hregular hselect).1
    rw [Cartridge.romWrite_of_select hregular' hselect]
    exact ⟨h.boot_eq, ⟨_, rfl⟩, h.control_eq,
      Cartridge.protects_select hregular hlt h.protects,
      fun other hother => Cartridge.shown_select hregular hlt (h.shows other hother)⟩

variable [SoundChip σ]

theorem Refines.writeLow (hregular : cartridge.Regular) (h : Refines cartridge model bus)
    {address : UInt16} (hlow : address < 0x4000) (value : UInt8) :
    Refines cartridge (model.write cartridge address value) (bus.write address value) := by
  have hrom : bus.memory.isRom address = false := by
    have hbelow := UInt16.lt_iff_toNat_lt.1 hlow
    rw [h.protects, decide_eq_false fun hin => absurd hin.1 (Nat.not_le.2 hbelow)]
  unfold BankModel.write
  rw [if_pos hlow]
  split
  · rename_i hmap
    obtain ⟨rfl, rfl⟩ := hmap
    rw [write_inputControl hrom]
    exact h.installCartridge hregular
  rename_i hmap
  split
  · rename_i hlatch
    obtain ⟨xm, hxm, -⟩ := h.exists_module hlatch.1
    unfold SystemBus.write
    rw [moduleTarget?_eq hxm, xm.decode?_eq_control_iff.2 hlatch.2]
    refine ⟨h.boot_eq, h.cartridge_eq, ?_, h.protects, h.shows⟩
    show (bus.xm.map _).map _ = _
    rw [hxm, if_pos hlatch.1]
    rfl
  · rename_i hlatch
    refine h.unseen ?_
    unfold SystemBus.write
    split
    · exact .mapPokey bus _
    · exact .writeRam bus _ value
    · rename_i htarget
      exact absurd (h.latch htarget) hlatch
    · unfold writeConsole
      split
      · exact .mapPokey bus _
      · rw [hrom]
        exact .writeRegister h.boot_eq hlow hmap

/-- In cartridge space the sound chip's addresses are the first sixteen. -/
theorem pokeyOffset_lt_iff {address : UInt16} (hlow : 0x4000 ≤ address) :
    address - 0x4000 < 16 ↔ address < 0x4010 := by
  have hlt := address.toNat_lt
  simp only [UInt16.le_iff_toNat_le, UInt16.lt_iff_toNat_lt, UInt16.toNat_sub] at *
  simp at *
  omega

/-- What answers in cartridge space in place of the cartridge leaves what is seen alone. -/
theorem Refines.unseen_elsewhere (h : Refines cartridge model bus) {address : UInt16}
    (hlow : 0x4000 ≤ address) (helsewhere : model.Elsewhere cartridge address) (value : UInt8) :
    Unseen bus (bus.write address value) := by
  rcases helsewhere with ⟨hexpansion, hram, hhigh⟩ | ⟨hpokey, hbase, hhigh⟩
  · obtain ⟨xm, hxm, hcontrol⟩ := h.exists_module hexpansion
    have henabled : xm.ramEnabled = true := by
      rw [ExpansionModule.ramEnabled, hcontrol]
      exact bne_iff_ne.2 hram
    obtain ⟨offset, htarget⟩ := xm.decode?_ram hlow hhigh henabled
    unfold SystemBus.write
    rw [moduleTarget?_eq hxm, htarget]
    exact .writeRam bus offset value
  · obtain ⟨bank, hc⟩ := h.cartridge_eq
    have hoffset := (pokeyOffset_lt_iff hlow).2 hhigh
    unfold SystemBus.write
    split
    · exact .mapPokey bus _
    · exact .writeRam bus _ value
    · rename_i htarget
      exact absurd (UInt16.le_trans hlow (h.latch htarget).2.2) (by decide)
    · unfold writeConsole
      rw [pokeyRegister?_eq hc, Cartridge.pokeyBase, if_neg hbase, if_pos ⟨hpokey, hoffset⟩]
      exact .mapPokey bus _

omit [SoundChip σ] in
/-- Where the model has nothing else answer, only the cartridge does. -/
theorem Refines.not_elsewhere (h : Refines cartridge model bus) {address : UInt16}
    (hlow : 0x4000 ≤ address) (helsewhere : ¬ model.Elsewhere cartridge address) :
    bus.moduleTarget? address = none ∧ bus.pokeyRegister? address = none := by
  constructor
  · cases hxm : bus.xm with
    | none => rw [moduleTarget?, hxm]
    | some xm =>
      obtain ⟨hexpansion, hcontrol⟩ := h.expansion hxm
      rw [moduleTarget?_eq hxm]
      refine xm.decode?_none hlow fun hboth => helsewhere (.inl ⟨hexpansion, ?_, hboth.2⟩)
      rw [← hcontrol]
      exact bne_iff_ne.1 hboth.1
  · obtain ⟨bank, hc⟩ := h.cartridge_eq
    rw [pokeyRegister?_eq hc]
    refine if_neg fun hboth => ?_
    have hoffset := hboth.2
    unfold Cartridge.pokeyBase at hoffset
    split at hoffset
    · have hlt := address.toNat_lt
      simp only [UInt16.le_iff_toNat_le, UInt16.lt_iff_toNat_lt, UInt16.toNat_sub] at hlow hoffset
      simp at hlow hoffset
      omega
    · rename_i hbase
      exact helsewhere (.inr ⟨hboth.1, hbase, (pokeyOffset_lt_iff hlow).1 hoffset⟩)

theorem Refines.writeHigh (hregular : cartridge.Regular) (h : Refines cartridge model bus)
    {address : UInt16} (hlow : 0x4000 ≤ address) (value : UInt8) :
    Refines cartridge (model.write cartridge address value) (bus.write address value) := by
  unfold BankModel.write
  rw [if_neg (UInt16.not_lt.2 hlow)]
  split
  · rename_i helsewhere
    exact h.unseen (h.unseen_elsewhere hlow helsewhere value)
  rename_i helsewhere
  obtain ⟨htarget, hregister⟩ := h.not_elsewhere hlow helsewhere
  split
  · rename_i hram
    have hrom : bus.memory.isRom address = false := by
      rw [h.protects, decide_eq_false fun hin => hin.2 hram]
    rw [bus.write_of_no_target htarget hregister hrom,
      bus.writeRegister_ram (UInt16.le_trans (by decide) hlow)]
    exact h.store hram value
  · rename_i hram
    have hrom : bus.memory.isRom address = true := by
      rw [h.protects, decide_eq_true ⟨UInt16.le_iff_toNat_le.1 hlow, hram⟩]
    rw [bus.write_protected htarget hregister hrom]
    exact h.romWrite hregular address value

/-! ## Runs -/

/-- One access. -/
def serve (bus : SystemBus σ) : Request → SystemBus σ
  | .read address => (bus.read address).2
  | .write address value => bus.write address value

theorem Refines.serve (hregular : cartridge.Regular) (h : Refines cartridge model bus)
    (request : Request) :
    Refines cartridge (model.serve cartridge request) (bus.serve request) := by
  cases request with
  | read address => exact h.unseen (.readAt bus address)
  | write address value =>
    by_cases hlow : address < 0x4000
    · exact h.writeLow hregular hlow value
    · exact h.writeHigh hregular (UInt16.not_lt.1 hlow) value

theorem Refines.run (hregular : cartridge.Regular) (h : Refines cartridge model bus)
    (requests : List Request) :
    Refines cartridge (requests.foldl (BankModel.serve cartridge) model)
      (requests.foldl SystemBus.serve bus) := by
  induction requests generalizing model bus with
  | nil => exact h
  | cons request rest ih => exact ih (h.serve hregular request)

end SystemBus

namespace Console

open Cartridge (bankSize)

variable {μ σ : Type} [SoundChip σ] [DisplayChip μ] {console : Console μ σ} {cartridge : Cartridge}

theorem refines_reset (hboot : console.board.bus.boot = none)
    (hc : console.cartridge? = some cartridge) (hregular : cartridge.Regular)
    (hfits : ∀ cart ∈ console.highScore, cart.Fits) :
    console.reset.board.bus.Refines cartridge (.start cartridge) := by
  have hmemory : console.resetMemory =
      console.mountedMemory false (cartridge.install .powerOn) := by
    rw [resetMemory, SystemBus.memory_powerOnBus_of_no_boot hboot hc]
  rw [reset_eq hfits, hmemory]
  refine ⟨(boot_powerOnBus _).trans hboot, ⟨cartridge.bank, (cartridge_powerOnBus _).trans hc⟩, ?_,
    fun address => ?_, fun address habove => ?_⟩
  · have hmounted : console.board.bus.cartridge = some cartridge := hc
    show (powerOnBus console.board.bus).xm.map _ = _
    rw [xm_powerOnBus, hmounted, Option.any_some]
    cases cartridge.expansion <;> rfl
  · rw [isRom_mountedMemory]
    exact Cartridge.protects_install hregular (fun _ _ => Memory.isRom_powerOn _) address
  · rw [(sameAbove_mountedMemory hfits false _ address habove).1, Cartridge.shown_start hregular]

/-- On a console without a boot ROM and with a regular cartridge, cartridge space shows after a
reset and any reads and writes what the bank model makes of the same reads and writes. All of it is
protected but for the cartridge's RAM. -/
theorem refines_banks (hboot : console.board.bus.boot = none)
    (hc : console.cartridge? = some cartridge) (hregular : cartridge.Regular)
    (hfits : ∀ cart ∈ console.highScore, cart.Fits) (requests : List Request) (address : UInt16)
    (habove : cartridgeStart ≤ address.toNat) :
    let after := requests.foldl SystemBus.serve console.reset.board.bus
    let model := requests.foldl (BankModel.serve cartridge) (.start cartridge)
    after.memory.read address = cartridge.shown model address ∧
      after.memory.isRom address = decide (¬ cartridge.InRam address) := by
  have hrun := (refines_reset hboot hc hregular hfits).run hregular requests
  refine ⟨hrun.shows address habove, (hrun.protects address).trans ?_⟩
  exact decide_eq_decide.2 (and_iff_right habove)

/-! ## A console with four banks -/

/-- A bank of ones and three banks of twos, two of which share the window. -/
def absoluteCartridge : Cartridge :=
  { Cartridge.ofImage (.replicate bankSize 1 ++ .replicate (3 * bankSize) 2) with
    mapper := .absolute }

theorem regular_absoluteCartridge : absoluteCartridge.Regular := by
  refine ⟨4, ?_, by decide, by decide⟩
  show (Array.replicate bankSize 1 ++ Array.replicate (3 * bankSize) 2 : Bytes).size = _
  rw [Array.size_append, Array.size_replicate, Array.size_replicate]
  rfl

theorem byteAt_absoluteCartridge :
    absoluteCartridge.byteAt 0x4000 (.ofBank 0x4000 0) = 1 ∧
      absoluteCartridge.byteAt 0x4000 (.ofBank 0x4000 1) = 2 := by
  simp [Cartridge.byteAt, absoluteCartridge, Cartridge.ofImage, Pane.ofBank, bankSize]

def absoluteConsole : Console IdleDisplay SilentSound :=
  (fresh {} {} {} {}).mounting absoluteCartridge

/-- A write to the mapper brings the second bank into the window. -/
theorem refines_banks_absoluteConsole :
    let after := absoluteConsole.reset.board.bus.serve (.write 0x8000 2)
    after.memory.read 0x4000 = 2 ∧ after.memory.isRom 0x4000 = true := by
  have hc : absoluteConsole.cartridge? = some absoluteCartridge := rfl
  obtain ⟨hread, hrom⟩ := refines_banks rfl hc regular_absoluteCartridge
    (fun _ hmem => by cases hmem) [.write 0x8000 2] 0x4000 (by decide)
  have hmodel : [.write 0x8000 2].foldl (BankModel.serve absoluteCartridge)
      (.start absoluteCartridge) = { bank := some 1, ram := fun _ => 0, control := 0 } := rfl
  have hnoRam : ¬ absoluteCartridge.InRam 0x4000 := fun hram => by cases hram.1
  rw [hmodel, Cartridge.shown_of_window rfl (by decide), List.foldl_cons, List.foldl_nil] at hread
  rw [List.foldl_cons, List.foldl_nil] at hrom
  exact ⟨hread.trans byteAt_absoluteCartridge.2, hrom.trans (decide_eq_true hnoRam)⟩

/-- To map the cartridge again brings the first bank back, and is no write to the mapper. -/
theorem mappedAgain_absoluteConsole :
    let selecting := absoluteConsole.reset.board.bus.serve (.write 0x8000 2)
    let after := selecting.serve (.write inputControl SystemBus.mapCartridge)
    let select? := absoluteCartridge.mapper.select? absoluteCartridge.banks
    select? 0x8000 2 = some 1 ∧ select? inputControl SystemBus.mapCartridge = none ∧
      after.memory.read 0x4000 ≠ absoluteCartridge.byteAt 0x4000 (.ofBank 0x4000 1) := by
  have hregular := regular_absoluteCartridge
  have hstart : absoluteConsole.reset.board.bus.Refines absoluteCartridge (.start _) :=
    refines_reset rfl rfl hregular fun _ hmem => by cases hmem
  have hafter := (hstart.serve hregular (.write 0x8000 2)).serve hregular
    (.write inputControl SystemBus.mapCartridge)
  have hmodel : ((BankModel.start absoluteCartridge).serve absoluteCartridge
      (.write 0x8000 2)).serve absoluteCartridge (.write inputControl SystemBus.mapCartridge) =
      { bank := some 0, ram := fun _ => 0, control := 0 } := rfl
  have hread := hafter.shows 0x4000 (by decide)
  rw [hmodel, Cartridge.shown_of_window rfl (by decide)] at hread
  have hfirst := hread.trans byteAt_absoluteCartridge.1
  refine ⟨rfl, rfl, fun hsecond => ?_⟩
  exact absurd (hfirst.symm.trans (hsecond.trans byteAt_absoluteCartridge.2)) (by decide)

end Console
end Console7800
