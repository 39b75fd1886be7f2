import Console7800.Proofs.Cartridge.Layout
import Console7800.Proofs.Console.Reset
import Console7800.Ranges

/-!
# No range is left

Every range that loading a file, mapping and a saved state ask for is there, whatever the file, the
image, the mapper and the bank: each checked definition has the result of the one without checks
(`Memory.writeRom?_eq`, `Cartridge.load?_eq`, `Cartridge.install?_eq`). So has any number of them,
one after another (`Console.mappings_inRange`).
-/

namespace Console7800

theorem minus?_of_le {a b : Nat} (h : b ≤ a) : minus? a b = some (a - b) := if_pos h

theorem byte?_of_lt {data : Bytes} {i : Nat} (h : i < data.size) :
    byte? data i = some (data.getD i 0) := by
  rw [byte?, Array.getElem?_eq_getElem h, Array.getElem_eq_getD 0]

theorem slice?_of_le {data : Bytes} {start stop : Nat} (hstart : start ≤ stop)
    (hstop : stop ≤ data.size) : slice? data start stop = some (data.extract start stop) :=
  if_pos ⟨hstart, hstop⟩

/-! ## Memory -/

namespace Cells

variable {α : Type} {n : Nat}

theorem overwrite?_of_le {cells : Vector α n} {start count : Nat} {data : Array α}
    (hend : start + count ≤ n) (hsize : data.size = count) :
    overwrite? cells start (start + count) data = some (overwrite cells start data) :=
  if_pos ⟨Nat.le_add_right .., hend, by omega⟩

theorem fill?_of_le {cells : Vector α n} {start count : Nat} (hend : start + count ≤ n)
    (value : α) :
    fill? cells start (start + count) value = some (fill cells start count value) := by
  rw [fill?, if_pos ⟨Nat.le_add_right .., hend⟩, Nat.add_sub_cancel_left]

/-- What does not fit is dropped in any case. -/
theorem overwrite_extract (cells : Vector α n) (start : Nat) (data : Array α) :
    overwrite cells start (data.extract 0 (min data.size (n - start))) =
      overwrite cells start data := by
  refine Vector.ext fun i hi => ?_
  have hsize : (data.extract 0 (min data.size (n - start))).size = min data.size (n - start) := by
    rw [Array.size_extract]
    omega
  rw [getElem_overwrite, getElem_overwrite]
  by_cases hin : start ≤ i ∧ i < start + data.size
  · rw [dif_pos hin, dif_pos (by omega), Array.getElem_extract]
    simp only [Nat.zero_add]
  · rw [dif_neg hin, dif_neg (by omega)]

theorem fill_min (cells : Vector α n) (start count : Nat) (value : α) :
    fill cells start (min count (n - start)) value = fill cells start count value := by
  rw [fill, fill, Nat.min_assoc, Nat.min_self]

end Cells

namespace Memory

variable (memory : Memory) (address : UInt16)

theorem room?_eq (count : Nat) :
    room? address count = some (min count (addressCount - address.toNat)) := by
  rw [room?, minus?_of_le (Nat.le_of_lt address.toNat_lt)]
  rfl

theorem add_room_le (count : Nat) :
    address.toNat + min count (addressCount - address.toNat) ≤ addressCount := by
  have : address.toNat < addressCount := address.toNat_lt
  omega

theorem size_extract_room (data : Bytes) :
    (data.extract 0 (min data.size (addressCount - address.toNat))).size =
      min data.size (addressCount - address.toNat) := by
  rw [Array.size_extract]
  omega

theorem writeRom?_eq (data : Bytes) :
    memory.writeRom? address data = some (memory.writeRom address data) := by
  obtain ⟨ram, rom⟩ := memory
  unfold writeRom? writeRom
  simp only [room?_eq, Option.bind_eq_bind, Option.bind_some]
  rw [slice?_of_le (Nat.zero_le _) (Nat.min_le_left _ _)]
  simp only [Option.bind_some]
  rw [Cells.overwrite?_of_le (add_room_le address data.size) (size_extract_room address data),
    Cells.fill?_of_le (add_room_le address data.size), Cells.overwrite_extract, Cells.fill_min]
  rfl

theorem clearRom?_eq (count : Nat) :
    memory.clearRom? address count = some (memory.clearRom address count) := by
  obtain ⟨ram, rom⟩ := memory
  unfold clearRom? clearRom
  simp only [room?_eq, Option.bind_eq_bind, Option.bind_some]
  rw [Cells.fill?_of_le (add_room_le address count), Cells.fill?_of_le (add_room_le address count),
    Cells.fill_min, Cells.fill_min]
  rfl

theorem load?_eq (data : Bytes) :
    memory.load? address data = some (memory.load address data) := by
  obtain ⟨ram, rom⟩ := memory
  unfold load? load
  simp only [room?_eq, Option.bind_eq_bind, Option.bind_some]
  rw [slice?_of_le (Nat.zero_le _) (Nat.min_le_left _ _)]
  simp only [Option.bind_some]
  rw [Cells.overwrite?_of_le (add_room_le address data.size) (size_extract_room address data),
    Cells.overwrite_extract]
  rfl

theorem slice?_eq (count : Nat) :
    memory.slice? address count = some (memory.slice address count) := by
  have haddress : address.toNat < addressCount := address.toNat_lt
  have hsize : memory.ram.toArray.size = addressCount := memory.ram.size_toArray
  unfold slice? slice
  rw [slice?_of_le (by omega) (by omega)]
  refine congrArg some (Array.ext ?_ fun i hi hi' => ?_)
  · simp only [Array.size_extract, hsize]
    omega
  · rw [Array.getElem_extract, Array.getElem_extract]

end Memory

/-! ## Files -/

theorem slice?_findIdx (data : Bytes) (p : UInt8 → Bool) :
    slice? data 0 ((data.findIdx? p).getD data.size) =
      some (data.toList.takeWhile fun byte => !p byte).toArray := by
  rw [← Array.findIdx_eq_getD_findIdx?, slice?_of_le (Nat.zero_le _) Array.findIdx_le_size]
  obtain ⟨bytes⟩ := data
  rw [List.takeWhile_eq_take_findIdx_not, List.findIdx_toArray]
  simp

namespace Cartridge

variable {cartridge : Cartridge} {data header : Bytes}

theorem sizeAt?_of_lt {i : Nat} (h : i + 3 < data.size) :
    sizeAt? data i = some (sizeAt data i) := by
  unfold sizeAt?
  rw [byte?_of_lt (by omega), byte?_of_lt (by omega), byte?_of_lt (by omega), byte?_of_lt h]
  rfl

theorem headerTitle?_of_le (h : headerSize ≤ header.size) :
    headerTitle? header = some (headerTitle header) := by
  unfold headerTitle? headerTitle
  rw [slice?_of_le (by decide) (Nat.le_trans (by decide) h), Option.bind_eq_bind, Option.bind_some,
    slice?_findIdx]
  rfl

theorem withHeader?_of_le (cartridge : Cartridge) (h : headerSize ≤ header.size) :
    cartridge.withHeader? header = some (cartridge.withHeader header) := by
  have hbyte {i : Nat} (hi : i < headerSize) : byte? header i = some (header.getD i 0) :=
    byte?_of_lt (Nat.lt_of_lt_of_le hi h)
  unfold withHeader?
  rw [headerTitle?_of_le h, hbyte (by decide), hbyte (by decide), hbyte (by decide),
    hbyte (by decide), hbyte (by decide), hbyte (by decide)]
  rfl

/-! The header is a range of its own, or the start of the file. -/

theorem getD_header (h : headerSize ≤ data.size) {i : Nat} (hi : i < headerSize) :
    (data.extract 0 headerSize).getD i 0 = data.getD i 0 := by
  rw [Array.getD_eq_getD_getElem?, Array.getElem?_extract, Nat.min_eq_left h, if_pos (by omega),
    Nat.zero_add, Array.getD_eq_getD_getElem?]

theorem sizeAt_header (h : headerSize ≤ data.size) :
    sizeAt (data.extract 0 headerSize) 49 = sizeAt data 49 := by
  unfold sizeAt
  rw [getD_header h (by decide), getD_header h (by decide), getD_header h (by decide),
    getD_header h (by decide)]

theorem withHeader_header (cartridge : Cartridge) (h : headerSize ≤ data.size) :
    cartridge.withHeader (data.extract 0 headerSize) = cartridge.withHeader data := by
  have htitle : (data.extract 0 headerSize).extract 17 49 = data.extract 17 49 :=
    Array.extract_extract
  unfold withHeader headerTitle
  rw [htitle, getD_header h (by decide), getD_header h (by decide), getD_header h (by decide),
    getD_header h (by decide), getD_header h (by decide), getD_header h (by decide)]

theorem size_header (h : headerSize ≤ data.size) :
    (data.extract 0 headerSize).size = headerSize := by
  rw [Array.size_extract, Nat.min_eq_left h, Nat.sub_zero]

theorem load?_eq (data : Bytes) : load? data = some (load data) := by
  unfold load? load
  by_cases hsmall : data.size ≤ headerSize
  · rw [if_pos hsmall, if_pos hsmall]
  have hheader : headerSize ≤ data.size := Nat.le_of_not_le hsmall
  have hshort {stop : Nat} (hstop : stop ≤ headerSize) : stop ≤ data.size :=
    Nat.le_trans hstop hheader
  rw [if_neg hsmall, if_neg hsmall, slice?_of_le (by decide) (hshort (by decide)),
    slice?_of_le (by decide) (hshort (by decide)),
    slice?_of_le (Nat.zero_le _) hheader, minus?_of_le hheader]
  simp only [Option.bind_eq_bind, Option.bind_some]
  split
  · rfl
  · split
    · rw [sizeAt?_of_lt (by rw [size_header hheader]; decide), sizeAt_header hheader,
        Option.bind_some]
      split
      · rfl
      · rename_i hdeclared
        have hend : headerSize + sizeAt data 49 ≤ data.size := by omega
        rw [slice?_of_le (Nat.le_add_right ..) hend, Option.bind_some,
          withHeader?_of_le _ (Nat.le_of_eq (size_header hheader).symm),
          withHeader_header _ hheader]
        rfl
    · rfl

/-! ## Mapping -/

/-- A part that lies past the end of the image is empty, and is there. -/
theorem part?_eq (cartridge : Cartridge) (offset count : Nat) :
    cartridge.part? offset count = some (cartridge.part offset count) := by
  unfold part? part
  rw [slice?_of_le (Nat.min_le_right _ _) (Nat.min_le_right _ _)]
  refine congrArg some (Array.ext ?_ fun i hi hi' => ?_)
  · simp only [Array.size_extract]
    omega
  · rw [Array.size_extract] at hi
    have hstart : min offset (min (offset + count) cartridge.image.size) = offset := by omega
    simp only [Array.getElem_extract, hstart]

theorem copyPart?_eq (cartridge : Cartridge) (memory : Memory) (address : UInt16)
    (offset count : Nat) :
    cartridge.copyPart? memory address offset count =
      some (memory.writeRom address (cartridge.part offset count)) := by
  rw [copyPart?, part?_eq, Option.bind_eq_bind, Option.bind_some, Memory.writeRom?_eq]

theorem selectBank?_eq (cartridge : Cartridge) (memory : Memory) (bank : UInt8) :
    cartridge.selectBank? memory bank = some (cartridge.selectBank memory bank) := by
  unfold selectBank? selectBank
  cases cartridge.mapper.window? with
  | none => rfl
  | some window =>
    dsimp only
    split
    · rw [copyPart?_eq]
      rfl
    · rfl

theorem romWrite?_eq (cartridge : Cartridge) (memory : Memory) (address : UInt16) (value : UInt8) :
    cartridge.romWrite? memory address value = some (cartridge.romWrite memory address value) := by
  unfold romWrite? romWrite
  cases cartridge.selectedBank? address value with
  | none => rfl
  | some bank => exact cartridge.selectBank?_eq memory bank

theorem bankFromEnd?_eq (cartridge : Cartridge) (back : Nat) :
    cartridge.bankFromEnd? back =
      if cartridge.image.size < back * bankSize then none
      else some (cartridge.image.size - back * bankSize) := by
  unfold bankFromEnd? minus?
  split
  · rw [if_neg (by omega)]
  · rw [if_pos (by omega)]

theorem part_flat (cartridge : Cartridge) (shown : Nat) (h : shown ≤ cartridge.image.size) :
    cartridge.part (cartridge.image.size - shown) shown =
      cartridge.image.extract (cartridge.image.size - shown) cartridge.image.size := by
  rw [part, Nat.sub_add_cancel h]

theorem install?_eq (cartridge : Cartridge) (memory : Memory) :
    cartridge.install? memory = some (cartridge.install memory) := by
  unfold install? install
  cases hmapper : cartridge.mapper with
  | normal =>
    have hshown : min cartridge.image.size 0x10000 ≤ cartridge.image.size := Nat.min_le_left _ _
    simp only [minus?_of_le hshown, minus?_of_le (Nat.min_le_right cartridge.image.size 0x10000),
      slice?_of_le (Nat.sub_le _ _) (Nat.le_refl cartridge.image.size), Option.bind_eq_bind,
      Option.bind_some, part_flat cartridge _ hshown]
    by_cases hempty : min cartridge.image.size 0x10000 = 0
    · rw [if_neg (by omega), if_pos hempty]
    · rw [if_pos (by omega), if_neg hempty, Memory.writeRom?_eq]
  | supercart =>
    simp only [bankFromEnd?_eq, Nat.one_mul]
    by_cases hlast : cartridge.image.size < bankSize
    · rw [if_pos hlast, if_pos hlast]
    · rw [if_neg hlast, if_neg hlast]
      exact copyPart?_eq ..
  | supercartLarge =>
    simp only [bankFromEnd?_eq, Nat.one_mul, bankOffset_zero]
    by_cases hlast : cartridge.image.size < bankSize
    · rw [if_pos hlast, if_pos hlast]
    · rw [if_neg hlast, if_neg hlast]
      simp only [copyPart?_eq, Option.bind_eq_bind, Option.bind_some]
  | supercartRam =>
    simp only [bankFromEnd?_eq, Nat.one_mul]
    by_cases hlast : cartridge.image.size < bankSize
    · rw [if_pos hlast, if_pos hlast]
    · rw [if_neg hlast, if_neg hlast]
      simp only [copyPart?_eq, Memory.clearRom?_eq, Option.bind_eq_bind, Option.bind_some]
  | supercartRom =>
    simp only [bankFromEnd?_eq, Nat.one_mul]
    by_cases hsecond : cartridge.image.size < 2 * bankSize
    · rw [if_pos hsecond, if_pos hsecond]
      by_cases hlast : cartridge.image.size < bankSize
      · rw [if_pos hlast]
      · rw [if_neg hlast]
    · rw [if_neg hsecond, if_neg hsecond, if_neg (by omega)]
      simp only [copyPart?_eq, Option.bind_eq_bind, Option.bind_some]
  | absolute =>
    have hoffset : cartridge.bankOffset 2 = 2 * bankSize := by
      unfold bankOffset
      simp [hmapper]
    simp only [copyPart?_eq, hoffset, Option.bind_eq_bind, Option.bind_some]
  | activision =>
    dsimp only
    by_cases hsize : cartridge.image.size ≤ 122880
    · rw [if_neg (Nat.not_lt.2 hsize), if_pos hsize]
    · rw [if_pos (Nat.not_le.1 hsize), if_neg hsize]
      simp only [copyPart?_eq, Option.bind_eq_bind, Option.bind_some]

end Cartridge

theorem BootRom.install?_eq (boot : BootRom) (memory : Memory) :
    boot.install? memory = some (boot.install memory) := by
  have hpositive := boot.positive
  unfold install? install
  rw [minus?_of_le boot.fits, Option.bind_eq_bind, Option.bind_some, if_pos (by omega),
    Memory.writeRom?_eq]

/-! ## The bus and the console -/

namespace SystemBus

variable {σ : Type} (bus : SystemBus σ)

theorem installCartridge?_eq : bus.installCartridge? = some bus.installCartridge := by
  obtain ⟨memory, riot, tia, pokey, _ | cartridge, xm, boot, bootEnabled⟩ := bus
  · rfl
  · simp only [SystemBus.installCartridge?, Cartridge.install?_eq]
    rfl

theorem installBoot?_eq : bus.installBoot? = some bus.installBoot := by
  obtain ⟨memory, riot, tia, pokey, cartridge, xm, _ | boot, _ | _⟩ := bus
  · rfl
  · rfl
  · rfl
  · simp only [SystemBus.installBoot?, BootRom.install?_eq]
    rfl

theorem installAtPowerOn?_eq : bus.installAtPowerOn? = some bus.installAtPowerOn := by
  unfold SystemBus.installAtPowerOn? installAtPowerOn
  split
  · exact bus.installBoot?_eq
  · exact bus.installCartridge?_eq

theorem romWrite?_eq (address : UInt16) (value : UInt8) :
    bus.romWrite? address value = some (bus.romWrite address value) := by
  obtain ⟨memory, riot, tia, pokey, _ | cartridge, xm, boot, bootEnabled⟩ := bus
  · rfl
  · simp only [SystemBus.romWrite?, Cartridge.romWrite?_eq]
    rfl

theorem selectBank?_eq (bank : UInt8) : bus.selectBank? bank = some (bus.selectBank bank) := by
  obtain ⟨memory, riot, tia, pokey, _ | cartridge, xm, boot, bootEnabled⟩ := bus
  · rfl
  · simp only [SystemBus.selectBank?, Cartridge.selectBank?_eq]
    rfl

theorem load?_eq (address : UInt16) (data : Bytes) :
    bus.load? address data = some (bus.mapMemory (·.load address data)) := by
  obtain ⟨memory, riot, tia, pokey, cartridge, xm, boot, bootEnabled⟩ := bus
  simp only [SystemBus.load?, Memory.load?_eq]
  rfl

end SystemBus

namespace Console

variable {μ σ : Type} [SoundChip σ]

theorem powerOnBus?_eq (bus : SystemBus σ) : powerOnBus? bus = some (powerOnBus bus) :=
  (clearedBus bus).installAtPowerOn?_eq

variable [DisplayChip μ] (console : Console μ σ)

theorem resetFor?_eq (loadingState : Bool) :
    console.resetFor? loadingState = some (console.resetFor loadingState) := by
  rw [resetFor?, powerOnBus?_eq]
  rfl

theorem loadCartridge?_eq (data : Bytes) :
    console.loadCartridge? data = some (console.loadCartridge data) := by
  unfold loadCartridge? loadCartridge
  rw [Cartridge.load?_eq, Option.bind_eq_bind, Option.bind_some]
  cases Cartridge.load data with
  | error error => rfl
  | ok cartridge =>
    simp only [resetFor?_eq]
    rfl

omit [SoundChip σ] [DisplayChip μ] in
theorem restore?_eq (parts : SaveState.Parts) :
    console.restore? parts = some (console.restore parts) := by
  obtain ⟨registers, bank, ram, expansionRam, riot, xm⟩ := parts
  unfold restore? restore
  simp only [SystemBus.selectBank?_eq, SystemBus.load?_eq, Option.bind_eq_bind, Option.bind_some]
  cases expansionRam <;> rfl

theorem loadState?_eq (data : Bytes) :
    console.loadState? data = some (console.loadState data) := by
  unfold loadState? loadState
  cases SaveState.parse data console.cartridge? with
  | error error => rfl
  | ok parts =>
    simp only [resetFor?_eq, restore?_eq]
    rfl

end Console

/-! ## Any number of mappings -/

/-- What maps a cartridge, or a part of it. -/
inductive Mapping where
  | loadCartridge (file : Bytes)
  | reset
  | install
  | selectBank (bank : UInt8)
  | romWrite (address : UInt16) (value : UInt8)
  | loadState (data : Bytes)

namespace Console

variable {μ σ : Type} [SoundChip σ] [DisplayChip μ]

def remap (console : Console μ σ) : Mapping → Console μ σ
  | .loadCartridge file => (console.loadCartridge file).2
  | .reset => console.reset
  | .install => console.mapBus (·.installCartridge)
  | .selectBank bank => console.mapBus (·.selectBank bank)
  | .romWrite address value => console.mapBus (·.romWrite address value)
  | .loadState data => (console.loadState data).2

/-- `mapBus`, with a change that may leave a range. -/
def mapBus? (console : Console μ σ) (f : SystemBus σ → Option (SystemBus σ)) :
    Option (Console μ σ) :=
  (f console.board.bus).map fun bus => console.mapBus fun _ => bus

/-- `remap`, unless a range is left. -/
def remap? (console : Console μ σ) : Mapping → Option (Console μ σ)
  | .loadCartridge file => (console.loadCartridge? file).map (·.2)
  | .reset => console.resetFor? false
  | .install => console.mapBus? (·.installCartridge?)
  | .selectBank bank => console.mapBus? (·.selectBank? bank)
  | .romWrite address value => console.mapBus? (·.romWrite? address value)
  | .loadState data => (console.loadState? data).map (·.2)

/-- One mapping, on any console: whatever the image and the mapper of its cartridge. -/
theorem remap?_eq (console : Console μ σ) (mapping : Mapping) :
    console.remap? mapping = some (console.remap mapping) := by
  cases mapping with
  | loadCartridge file => rw [remap?, loadCartridge?_eq, Option.map_some]; rfl
  | reset => exact console.resetFor?_eq false
  | install => rw [remap?, mapBus?, SystemBus.installCartridge?_eq]; rfl
  | selectBank bank => rw [remap?, mapBus?, SystemBus.selectBank?_eq]; rfl
  | romWrite address value => rw [remap?, mapBus?, SystemBus.romWrite?_eq]; rfl
  | loadState data => rw [remap?, loadState?_eq, Option.map_some]; rfl

/-- Every file is read without leaving a range, every block of memory that is asked for is there,
and nothing that maps parts of an image leaves a range: on a console with any cartridge, any
sequence of loads, resets, mappings, selections and writes to the mapper, and of states with any
bank, has the result that it has without checks. -/
theorem mappings_inRange :
    (∀ file, Cartridge.load? file = some (Cartridge.load file)) ∧
      (∀ (memory : Memory) (address : UInt16) (count : Nat),
        memory.slice? address count = some (memory.slice address count)) ∧
      ∀ (console : Console μ σ) (mappings : List Mapping),
        mappings.foldlM remap? console = some (mappings.foldl remap console) := by
  refine ⟨Cartridge.load?_eq, Memory.slice?_eq, fun console mappings => ?_⟩
  induction mappings generalizing console with
  | nil => rfl
  | cons mapping rest ih =>
    rw [List.foldlM_cons, remap?_eq, Option.bind_eq_bind, Option.bind_some, ih, List.foldl_cons]

end Console
end Console7800
