import Console7800.Proofs.Console.Banking
import Console7800.Proofs.Console.LowMemory

/-!
# The recorded bank

A selection puts a bank into the window and records it. Where a mapper puts the first bank there
when the cartridge is mapped, that is not recorded, and a program can have the cartridge mapped
again. So the window shows the recorded bank until that happens, and from then on the first one
until the next selection (`WindowRecord.shown`, `window_loadCartridge`).
-/

namespace Console7800

open Cartridge (bankSize)

/-! ## What is known of the window -/

/-- The bank that was selected last, and whether the cartridge has been mapped again since. -/
structure WindowRecord where
  bank : UInt8 := 0
  remapped : Bool := false
  deriving Repr, DecidableEq

namespace WindowRecord

/-- The bank that the window shows. -/
def shown (record : WindowRecord) : UInt8 := if record.remapped then 0 else record.bank

/-- What an access makes of it. -/
def serve (cartridge : Cartridge) (record : WindowRecord) : Request → WindowRecord
  | .read _ => record
  | .write address value =>
    if address = inputControl ∧ value = SystemBus.mapCartridge then { record with remapped := true }
    else
      match cartridge.selectedBank? address value with
      | some bank => { bank }
      | none => record

end WindowRecord

namespace Cartridge

open Memory (Within)

/-- So many whole banks, enough for a mapper that puts the first one into the window when the
cartridge is mapped, and others elsewhere. -/
structure Homed (cartridge : Cartridge) (count : Nat) : Prop where
  size_eq : cartridge.image.size = count * bankSize
  mapper : cartridge.mapper = .absolute ∧ 4 ≤ count ∨ cartridge.mapper = .activision ∧ 8 ≤ count

variable {cartridge : Cartridge} {count : Nat} {memory : Memory} {bank : UInt8}

namespace Homed

theorem window_isSome (h : cartridge.Homed count) : cartridge.mapper.window?.isSome := by
  rcases h.mapper with ⟨hmapper, -⟩ | ⟨hmapper, -⟩ <;> rw [hmapper] <;> rfl

theorem selects_zero (h : cartridge.Homed count) : cartridge.Selects 0 := by
  refine selects_of_lt h.size_eq h.window_isSome (Nat.lt_of_lt_of_le (m := 4) (by decide) ?_)
  rcases h.mapper with ⟨-, hcount⟩ | ⟨-, hcount⟩ <;> omega

theorem lowest_eq (h : cartridge.Homed count) : cartridge.lowest = cartridgeStart := by
  refine lowest_banked fun hflat => ?_
  have hwindow := h.window_isSome
  rw [hflat] at hwindow
  cases hwindow

theorem not_inRam (h : cartridge.Homed count) (address : UInt16) : ¬ cartridge.InRam address := by
  rintro ⟨hram, -⟩
  rcases h.mapper with ⟨hmapper, -⟩ | ⟨hmapper, -⟩ <;> rw [hmapper] at hram <;> cases hram

/-- A bank that a program selects is there, and the write that selects it is seen by the mapper. -/
theorem selected (h : cartridge.Homed count) {address : UInt16} {value : UInt8}
    (hselect : cartridge.selectedBank? address value = some bank) :
    0x8000 ≤ address ∧ bank.toNat < count := by
  unfold selectedBank? at hselect
  rcases h.mapper with ⟨hmapper, hcount⟩ | ⟨hmapper, hcount⟩
  · rw [hmapper] at hselect
    obtain ⟨⟨rfl, hvalue⟩, rfl⟩ := by
      simpa only [Option.ite_none_right_eq_some, Option.some.injEq] using hselect
    refine ⟨by decide, Nat.lt_of_lt_of_le ?_ hcount⟩
    rcases hvalue with rfl | rfl <;> decide
  · rw [hmapper] at hselect
    obtain ⟨haddress, rfl⟩ := by
      simpa only [Option.ite_none_right_eq_some, Option.some.injEq] using hselect
    refine ⟨UInt16.le_trans (by decide) haddress, Nat.lt_of_lt_of_le ?_ hcount⟩
    rw [UInt16.toNat_toUInt8, toNat_and_seven]
    omega

theorem showsBank_install (h : cartridge.Homed count) (memory : Memory) :
    ({ cartridge with bank := 0 } : Cartridge).ShowsBank (cartridge.install memory) := by
  intro window hwindow address hin
  have hwindow : window ∈ cartridge.mapper.window? := hwindow
  have hsize (offset count : Nat) : (cartridge.part offset count).size ≤ count := by
    rw [size_part]
    omega
  have hfirst : Cartridge.part { cartridge with bank := 0 }
      (Cartridge.bankOffset { cartridge with bank := 0 } 0) bankSize =
        cartridge.part 0 bankSize := by
    rw [bankOffset_zero]
    rfl
  rw [hfirst] at hin ⊢
  have hend := Nat.lt_of_lt_of_le hin.2 (Nat.add_le_add_left (hsize 0 bankSize) _)
  have hbeside {start : UInt16} {offset room : Nat}
      (hapart : window.toNat + bankSize ≤ start.toNat ∨ start.toNat + room ≤ window.toNat) :
      ¬ Within start (cartridge.part offset room).size address := by
    have hroom := hsize offset room
    have hstart := hin.1
    rintro ⟨hfrom, hto⟩
    omega
  rcases h.mapper with ⟨hmapper, -⟩ | ⟨hmapper, hcount⟩
  · rw [hmapper] at hwindow
    obtain rfl : 0x4000 = window := Option.some.inj hwindow
    unfold install
    simp only [hmapper]
    rw [Memory.read_writeRom, if_neg (hbeside (by decide)), Memory.read_writeRom, if_pos hin]
  · rw [hmapper] at hwindow
    obtain rfl : 0xA000 = window := Option.some.inj hwindow
    have henough : ¬ cartridge.image.size ≤ 122880 := by
      rw [h.size_eq]
      simp only [bankSize]
      omega
    unfold install
    simp only [hmapper, if_neg henough]
    rw [Memory.read_writeRom, if_neg (hbeside (by decide)), Memory.read_writeRom,
      if_neg (hbeside (by decide)), Memory.read_writeRom, if_neg (hbeside (by decide)),
      Memory.read_writeRom, if_neg (hbeside (by decide)), Memory.read_writeRom, if_pos hin]

end Homed

/-- From the start of a window there is room for a bank. -/
theorem window_add_le {window : UInt16} (h : cartridge.mapper.window? = some window) :
    window.toNat + bankSize ≤ addressCount := by
  have := (window_bounds h).2
  simp only [bankSize, addressCount]
  omega

/-- The bytes of a bank. -/
def bankBytes (cartridge : Cartridge) (bank : UInt8) : Bytes :=
  cartridge.part (bank.toNat * bankSize) bankSize

namespace Homed

variable (h : cartridge.Homed count)

include h

theorem bankOffset_eq (bank : UInt8) : cartridge.bankOffset bank = bank.toNat * bankSize := by
  unfold bankOffset
  rcases h.mapper with ⟨hmapper, -⟩ | ⟨hmapper, -⟩ <;> simp [hmapper]

theorem lt_of_selects (hselects : cartridge.Selects bank) : bank.toNat < count := by
  have hoffset := hselects.2
  rw [h.bankOffset_eq bank, h.size_eq] at hoffset
  exact Nat.lt_of_mul_lt_mul_right hoffset

theorem size_bankBytes (hselects : cartridge.Selects bank) :
    (cartridge.bankBytes bank).size = bankSize := by
  have hwhole := whole_of_dvd ⟨count, by rw [h.size_eq, Nat.mul_comm]⟩ hselects.2
  rw [h.bankOffset_eq bank] at hwhole
  rw [bankBytes, size_part, Nat.min_eq_left hwhole, Nat.add_sub_cancel_left]

theorem slice_window {window : UInt16} (hwindow : cartridge.mapper.window? = some window)
    (hselects : cartridge.Selects bank)
    (hshown : ({ cartridge with bank } : Cartridge).ShowsBank memory) :
    memory.slice window bankSize = cartridge.bankBytes bank := by
  have hbytes : Cartridge.part { cartridge with bank }
      (Cartridge.bankOffset { cartridge with bank } bank) bankSize = cartridge.bankBytes bank :=
    congrArg (cartridge.part · bankSize) (h.bankOffset_eq bank)
  have hread := hshown window hwindow
  rw [hbytes, h.size_bankBytes hselects] at hread
  exact Memory.slice_eq_of_read (h.size_bankBytes hselects) (window_add_le hwindow) hread

end Homed

theorem Mapped.withBank (h : cartridge.Mapped memory) (bank : UInt8) :
    ({ cartridge with bank } : Cartridge).Mapped memory := ⟨h.isRom, h.read⟩

theorem Mapped.isRom_above (h : cartridge.Mapped memory) {address : UInt16}
    (habove : cartridgeStart ≤ address.toNat) (hram : ¬ cartridge.InRam address) :
    memory.isRom address = true := by
  rw [h.isRom address habove]
  exact eq_true_of_ne_false fun hflag => hram (inRam_of_writable habove hflag)

end Cartridge

namespace SystemBus

variable {σ : Type} {bus after : SystemBus σ} {cartridge : Cartridge} {record : WindowRecord}
  {count : Nat}

/-- The bus holds the cartridge, without a boot ROM, and shows what the record says in the
window. -/
structure Follows (cartridge : Cartridge) (record : WindowRecord) (bus : SystemBus σ) : Prop where
  protectedBy : bus.ProtectedBy cartridge
  mapped : cartridge.Mapped bus.memory
  cartridge_eq : bus.cartridge = some { cartridge with bank := record.bank }
  selects : cartridge.Selects record.bank
  shows : ({ cartridge with bank := record.shown } : Cartridge).ShowsBank bus.memory

theorem Unseen.undisturbed (h : Unseen bus after) : Undisturbed bus after where
  boot_eq := h.boot_eq
  cartridge_eq := h.cartridge_eq
  memory := Memory.SameAbove.protected fun address habove =>
    ⟨h.read address habove, h.isRom address⟩

namespace Follows

theorem undisturbed (h : Follows cartridge record bus) (hsame : Undisturbed bus after)
    (hprotected : after.ProtectedBy cartridge) : Follows cartridge record after where
  protectedBy := hprotected
  mapped := h.mapped.of_sameProtected hsame.memory
  cartridge_eq := hsame.cartridge_eq.trans h.cartridge_eq
  selects := h.selects
  shows := h.shows.of_sameProtected (h.mapped.withBank _) hsame.memory

theorem selectBank (h : Follows cartridge record bus) {bank : UInt8}
    (hselects : cartridge.Selects bank) (hprotected : (bus.selectBank bank).ProtectedBy cartridge) :
    Follows cartridge { bank } (bus.selectBank bank) := by
  have hselects' : Cartridge.Selects { cartridge with bank := record.bank } bank := hselects
  have hmapped := (h.mapped.withBank record.bank).selectBank bank
  have hshown := Cartridge.showsBank_selectBank bus.memory hselects'
  have hrecorded := Cartridge.selectBank_of_selects bus.memory hselects'
  rw [hrecorded] at hmapped hshown
  refine ⟨hprotected, ?_, ?_, hselects, ?_⟩ <;> rw [selectBank_eq h.cartridge_eq]
  · exact ⟨hmapped.isRom, hmapped.read⟩
  · exact congrArg some hrecorded
  · exact hshown

theorem installCartridge (h : Follows cartridge record bus) (hhomed : cartridge.Homed count)
    (hprotected : bus.installCartridge.ProtectedBy cartridge) :
    Follows cartridge { record with remapped := true } bus.installCartridge := by
  refine ⟨hprotected, ?_, ?_, h.selects, ?_⟩ <;> rw [installCartridge_eq h.cartridge_eq]
  · exact h.mapped.install
  · exact h.cartridge_eq
  · exact hhomed.showsBank_install bus.memory

theorem write_selected [SoundChip σ] (h : Follows cartridge record bus)
    (hhomed : cartridge.Homed count) {address : UInt16} {value bank : UInt8}
    (hselect : cartridge.selectedBank? address value = some bank) :
    bus.write address value = bus.selectBank bank := by
  obtain ⟨hhigh, -⟩ := hhomed.selected hselect
  have habove : cartridgeStart ≤ address.toNat :=
    Nat.le_trans (by decide) (UInt16.le_iff_toNat_le.1 hhigh)
  have hselect' : Cartridge.selectedBank? { cartridge with bank := record.bank } address value =
    some bank := hselect
  rw [bus.write_high hhigh (h.mapped.isRom_above habove (hhomed.not_inRam address)), romWrite_eq,
    h.cartridge_eq, Option.bind_some, hselect']

/-- Any other write but the one that maps the cartridge leaves the window alone. -/
theorem undisturbed_write [SoundChip σ] (h : Follows cartridge record bus)
    (hhomed : cartridge.Homed count) {address : UInt16} {value : UInt8}
    (hmap : ¬ (address = inputControl ∧ value = mapCartridge))
    (hselect : cartridge.selectedBank? address value = none) :
    Undisturbed bus (bus.write address value) := by
  have hrecorded : bus.cartridge.bind (·.selectedBank? address value) = none := by
    rw [h.cartridge_eq]
    exact hselect
  unfold SystemBus.write
  split
  · exact (Unseen.mapPokey bus _).undisturbed
  · exact (Unseen.writeRam bus _ value).undisturbed
  · exact ⟨rfl, rfl, (Memory.SameAbove.refl _).protected⟩
  · unfold writeConsole
    split
    · exact (Unseen.mapPokey bus _).undisturbed
    · cases hrom : bus.memory.isRom address with
      | true =>
        rw [if_pos rfl, romWrite_eq, hrecorded]
        exact .refl bus
      | false =>
        have hlow : address < 0x4000 := UInt16.not_le.1 fun habove => by
          have hprotected := h.mapped.isRom_above (UInt16.le_iff_toNat_le.1 habove)
            (hhomed.not_inRam address)
          rw [hrom] at hprotected
          cases hprotected
        rw [if_neg Bool.false_ne_true]
        exact (Unseen.writeRegister h.protectedBy.boot hlow hmap).undisturbed

theorem serve [SoundChip σ] (h : Follows cartridge record bus) (hhomed : cartridge.Homed count)
    (request : Request) :
    Follows cartridge (record.serve cartridge request) (bus.serve request) := by
  cases request with
  | read address =>
    exact h.undisturbed (Unseen.readAt bus address).undisturbed
      ((bus.evolves_read address).keeps Change.protectedBy h.protectedBy)
  | write address value =>
    have hprotected : (bus.write address value).ProtectedBy cartridge :=
      (bus.evolves_write address value).keeps Change.protectedBy h.protectedBy
    dsimp only [WindowRecord.serve, SystemBus.serve]
    split
    · rename_i hmap
      obtain ⟨rfl, rfl⟩ := hmap
      have hrom : bus.memory.isRom inputControl = false := by
        rw [h.protectedBy.isRom _ (by decide), hhomed.lowest_eq]
        decide
      rw [write_inputControl hrom] at hprotected ⊢
      exact h.installCartridge hhomed hprotected
    · rename_i hmap
      cases hselect : cartridge.selectedBank? address value with
      | none => exact h.undisturbed (h.undisturbed_write hhomed hmap hselect) hprotected
      | some bank =>
        have hselects : cartridge.Selects bank := Cartridge.selects_of_lt hhomed.size_eq
          hhomed.window_isSome (hhomed.selected hselect).2
        rw [h.write_selected hhomed hselect] at hprotected ⊢
        exact h.selectBank hselects hprotected

theorem run [SoundChip σ] (h : Follows cartridge record bus) (hhomed : cartridge.Homed count)
    (requests : List Request) :
    Follows cartridge (requests.foldl (WindowRecord.serve cartridge) record)
      (requests.foldl SystemBus.serve bus) := by
  induction requests generalizing record bus with
  | nil => exact h
  | cons request rest ih => exact ih (h.serve hhomed request)

/-- The window shows what the record says, which need not be the bank that it names. -/
theorem window (h : Follows cartridge record bus) (hhomed : cartridge.Homed count) :
    ∃ window, cartridge.mapper.window? = some window ∧
      bus.memory.slice window bankSize = cartridge.bankBytes record.shown ∧
      (bus.memory.slice window bankSize = cartridge.bankBytes record.bank ↔
        (record.remapped → cartridge.bankBytes 0 = cartridge.bankBytes record.bank)) := by
  obtain ⟨window, hwindow⟩ := Option.isSome_iff_exists.1 hhomed.window_isSome
  have hselects : cartridge.Selects record.shown := by
    unfold WindowRecord.shown
    split
    · exact hhomed.selects_zero
    · exact h.selects
  have hslice := hhomed.slice_window hwindow hselects h.shows
  refine ⟨window, hwindow, hslice, ?_⟩
  rw [hslice]
  unfold WindowRecord.shown
  cases record.remapped <;> simp

end Follows

theorem follows_powerOnBus [SoundChip σ] (hboot : bus.boot = none)
    (hc : bus.cartridge = some cartridge) (hbank : cartridge.bank = 0)
    (hhomed : cartridge.Homed count) : Follows cartridge {} (Console.powerOnBus bus) := by
  have hmemory := memory_powerOnBus_of_no_boot hboot hc
  refine ⟨protectedBy_powerOnBus hboot (hc ▸ rfl), ?_, ?_, hhomed.selects_zero, ?_⟩
  · rw [hmemory]
    exact cartridge.mapped_install_powerOn
  · rw [Console.cartridge_powerOnBus, hc, ← hbank]
  · rw [hmemory]
    exact hhomed.showsBank_install .powerOn

end SystemBus

namespace Console

variable {μ σ : Type} [SoundChip σ] [DisplayChip μ] {console : Console μ σ} {file : Bytes}
  {cartridge : Cartridge} {count : Nat}

theorem follows_loadCartridge (hboot : console.board.bus.boot = none)
    (hfits : ∀ cart ∈ console.highScore, cart.Fits) (hload : Cartridge.load file = .ok cartridge)
    (hhomed : (console.configured cartridge).Homed count) :
    (console.loadCartridge file).2.board.bus.Follows (console.configured cartridge) {} := by
  have hprotected := protectedBy_played hboot hload .start
  rw [loadCartridge_eq hload, reset, bus_resetFor] at hprotected ⊢
  have hbank : (console.configured cartridge).bank = 0 := by
    rw [bank_configured, bank_eq_of_load hload]
  have hfollows : (powerOnBus (console.mounting cartridge).board.bus).Follows
      (console.configured cartridge) {} :=
    SystemBus.follows_powerOnBus hboot rfl hbank hhomed
  have hfits : ∀ cart ∈ (console.mounting cartridge).highScore, cart.Fits := hfits
  obtain ⟨memory, hstart, hsame⟩ := sameButRam_startBus hfits false
  refine hfollows.undisturbed ?_ hprotected
  rw [hstart]
  exact .of_memory _ hsame.protected

/-- A cartridge of whole banks, with a mapper that puts the first one into the window when the
cartridge is mapped, is loaded into a console without a boot ROM, and read and written in any way.
The window shows the bank that was selected last, or the first one if the cartridge has been mapped
again since. The recorded bank is the one that was selected last in any case, so that the window
shows it exactly if the cartridge has not been mapped again since or the two banks are the same. -/
theorem window_loadCartridge (hboot : console.board.bus.boot = none)
    (hfits : ∀ cart ∈ console.highScore, cart.Fits) (hload : Cartridge.load file = .ok cartridge)
    (hhomed : (console.configured cartridge).Homed count) (requests : List Request) :
    let mounted := console.configured cartridge
    let bus := requests.foldl SystemBus.serve (console.loadCartridge file).2.board.bus
    let record := requests.foldl (WindowRecord.serve mounted) {}
    (console.loadCartridge file).1 = .ok () ∧
      bus.cartridge = some { mounted with bank := record.bank } ∧ record.bank.toNat < count ∧
      ∃ window, mounted.mapper.window? = some window ∧
        bus.memory.slice window bankSize = mounted.bankBytes record.shown ∧
        (bus.memory.slice window bankSize = mounted.bankBytes record.bank ↔
          (record.remapped → mounted.bankBytes 0 = mounted.bankBytes record.bank)) := by
  intro mounted bus record
  have hfollows : bus.Follows mounted record :=
    (follows_loadCartridge hboot hfits hload hhomed).run hhomed requests
  exact ⟨congrArg Prod.fst (loadCartridge_eq hload), hfollows.cartridge_eq,
    hhomed.lt_of_selects hfollows.selects, hfollows.window hhomed⟩

/-! ## A console after a switch and another mapping -/

/-- A bank of ones and three banks of twos, without a header. -/
def absoluteFile : Bytes := .replicate bankSize 1 ++ .replicate (3 * bankSize) 2

theorem size_absoluteFile : absoluteFile.size = 4 * bankSize := by
  simp [absoluteFile, bankSize]

/-- What its size makes of it. -/
def bareCartridge : Cartridge :=
  { Cartridge.ofImage absoluteFile with mapper := .ofSize absoluteFile.size }

theorem load_absoluteFile : Cartridge.load absoluteFile = .ok bareCartridge := by
  have hsize : Cartridge.headerSize < absoluteFile.size := by
    rw [size_absoluteFile]
    decide
  have hstart : absoluteFile.extract 1 10 = .replicate 9 1 := by
    rw [absoluteFile, Array.extract_append, Array.extract_replicate, Array.extract_replicate,
      Array.size_replicate]
    rfl
  exact load_headless hsize hstart (by decide)

def absoluteEntry : Database.Entry where
  title := "Four banks"
  mapper := .absolute
  pokey := false
  controllers := (1, 1)
  region := .ntsc
  flags := 0

/-- A new console with a database that knows the file. -/
def knowingConsole : Console IdleDisplay SilentSound :=
  { fresh {} {} {} {} with
    database := some ⟨[(Text.asciiLower bareCartridge.digest.toList, absoluteEntry)]⟩ }

/-- The file as that console mounts it. -/
def knownCartridge : Cartridge := absoluteEntry.apply bareCartridge

omit [SoundChip σ] [DisplayChip μ] in
theorem configured_of_database {entry : Database.Entry}
    (h : console.database = some ⟨[(Text.asciiLower cartridge.digest.toList, entry)]⟩) :
    console.configured cartridge = entry.apply cartridge := by
  simp [configured, h, Database.apply, Database.lookup?]

theorem configured_knowingConsole : knowingConsole.configured bareCartridge = knownCartridge :=
  configured_of_database rfl

theorem image_knownCartridge : knownCartridge.image = absoluteFile := rfl

theorem homed_knownCartridge : knownCartridge.Homed 4 :=
  ⟨image_knownCartridge ▸ size_absoluteFile, .inl ⟨rfl, Nat.le_refl 4⟩⟩

theorem bankBytes_knownCartridge : knownCartridge.bankBytes 0 ≠ knownCartridge.bankBytes 1 := by
  have hfirst : absoluteFile.getD (0 * bankSize + 0) 0 = 1 := by
    simp [absoluteFile, bankSize]
  have hsecond : absoluteFile.getD (1 * bankSize + 0) 0 = 2 := by
    simp [absoluteFile, bankSize]
  have hbyte (bank : UInt8) : (knownCartridge.bankBytes bank).getD 0 0 =
      absoluteFile.getD (bank.toNat * bankSize + 0) 0 := by
    rw [Cartridge.bankBytes, Cartridge.getD_part _ (by decide), image_knownCartridge]
  intro heq
  have hsame := (hbyte 0).symm.trans ((congrArg (·.getD 0 0) heq).trans (hbyte 1))
  exact absurd (hfirst.symm.trans (hsame.trans hsecond)) (by decide)

/-- Switch to the second bank, and map the cartridge again. -/
def switchAndMap : List Request :=
  [.write 0x8000 2, .write inputControl SystemBus.mapCartridge]

/-- The second bank is recorded, and the first one is in the window. -/
theorem window_loadCartridge_absoluteFile :
    let bus := switchAndMap.foldl SystemBus.serve
      (knowingConsole.loadCartridge absoluteFile).2.board.bus
    bus.cartridge = some { knownCartridge with bank := 1 } ∧
      bus.memory.slice 0x4000 bankSize = knownCartridge.bankBytes 0 ∧
      bus.memory.slice 0x4000 bankSize ≠ knownCartridge.bankBytes 1 := by
  have hboot : knowingConsole.board.bus.boot = none := rfl
  have hfits : ∀ cart ∈ knowingConsole.highScore, cart.Fits := fun _ hmem => by cases hmem
  have hhomed : (knowingConsole.configured bareCartridge).Homed 4 :=
    configured_knowingConsole ▸ homed_knownCartridge
  obtain ⟨-, hcartridge, -, window, hwindow, hshown, hiff⟩ :=
    window_loadCartridge hboot hfits load_absoluteFile hhomed switchAndMap
  have hrecord : switchAndMap.foldl (WindowRecord.serve knownCartridge) {} = ⟨1, true⟩ := rfl
  rw [configured_knowingConsole] at hcartridge hwindow hshown hiff
  rw [hrecord] at hcartridge hshown hiff
  obtain rfl : 0x4000 = window := Option.some.inj hwindow
  exact ⟨hcartridge, hshown, fun hsecond => bankBytes_knownCartridge (hiff.1 hsecond rfl)⟩

end Console
end Console7800
