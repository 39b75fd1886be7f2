import Console7800.SaveState

/-!
# Reading a saved state back

A state is a chain of blocks, and its size tells which it has. What a chain was made of is what
`partsOf` finds in it, so a console's state is accepted for its own cartridge and read as what was
saved (`parse_saveState`).
-/

namespace Console7800

theorem Text.length_flatMap_byteHex (bytes : List UInt8) :
    (bytes.flatMap byteHex).length = 2 * bytes.length := by
  induction bytes with
  | nil => rfl
  | cons byte bytes ih =>
    rw [List.flatMap_cons, List.length_append, ih, List.length_cons]
    simp only [byteHex, List.length_cons, List.length_nil]
    omega

variable {μ σ : Type}

namespace SaveState

theorem block_append_left {first second : Bytes} {start size : Nat}
    (h : start + size ≤ first.size) :
    block (first ++ second) start size = block first start size := by
  simp only [block, Array.extract_append, Nat.sub_eq_zero_of_le h]
  simp

theorem block_append_right {first second : Bytes} {start size : Nat} (hstart : first.size = start)
    (hsize : second.size = size) : block (first ++ second) start size = second := by
  subst hstart hsize
  simp [block]

theorem getD_append_left {first second : Bytes} {i : Nat} (h : i < first.size) :
    (first ++ second).getD i 0 = first.getD i 0 := by
  simp [Array.getElem?_append_left h]

/-! ## Chains -/

/-- What a state is made of. -/
structure Chain where
  digest : Bytes
  registers : Bytes
  bank : UInt8
  ram : Bytes
  expansionRam : Bytes
  riot : Bytes
  xm : Bytes

namespace Chain

/-- What stands before the RAM. -/
def front (chain : Chain) : Bytes :=
  magic ++ #[version, 0, 0, 0, 0] ++ chain.digest ++ chain.registers ++ #[chain.bank]

def bytes (chain : Chain) : Bytes :=
  chain.front ++ chain.ram ++ chain.expansionRam ++ chain.riot ++ chain.xm

/-- The blocks have the sizes that a layout gives them. -/
structure Fits (chain : Chain) (layout : Layout) : Prop where
  digest : chain.digest.size = 32
  registers : chain.registers.size = 7
  ram : chain.ram.size = ramSize
  expansionRam : chain.expansionRam.size = if layout.expansionRam then ramSize else 0
  riot : chain.riot.size = if layout.riot then Riot.snapshotSize else 0
  xm : chain.xm.size = if layout.xm then ExpansionModule.snapshotSize else 0

namespace Fits

variable {chain : Chain} {layout : Layout}

theorem sizes (h : chain.Fits layout) :
    (magic ++ #[version, 0, 0, 0, 0] : Bytes).size = digestStart ∧
      (magic ++ #[version, 0, 0, 0, 0] ++ chain.digest).size = registersStart ∧
      (magic ++ #[version, 0, 0, 0, 0] ++ chain.digest ++ chain.registers).size = bankStart ∧
      chain.front.size = ramStart := by
  obtain ⟨hdigest, hregisters, -, -, -, -⟩ := h
  have hmagic : magic.size = 16 := rfl
  simp [front, hmagic, hdigest, hregisters, digestStart, registersStart, bankStart, ramStart]

theorem size_ram (h : chain.Fits layout) :
    (chain.front ++ chain.ram).size = ramStart + ramSize := by
  rw [Array.size_append, h.sizes.2.2.2, h.ram]

theorem size_expansionRam (h : chain.Fits layout) :
    (chain.front ++ chain.ram ++ chain.expansionRam).size = layout.riotStart := by
  rw [Array.size_append, h.size_ram, h.expansionRam, Layout.riotStart]

theorem size_riot (h : chain.Fits layout) :
    (chain.front ++ chain.ram ++ chain.expansionRam ++ chain.riot).size = layout.xmStart := by
  rw [Array.size_append, h.size_expansionRam, h.riot, Layout.xmStart]

theorem size_bytes (h : chain.Fits layout) : chain.bytes.size = layout.size := by
  rw [bytes, Array.size_append, h.size_riot, h.xm, Layout.size]

/-! What a chain was made of is found in it again. -/

theorem block_front (h : chain.Fits layout) {start size : Nat} (hfront : start + size ≤ ramStart) :
    block chain.bytes start size = block chain.front start size := by
  have hsize := h.sizes.2.2.2
  simp only [bytes, Array.append_assoc]
  exact block_append_left (by omega)

theorem block_magic (h : chain.Fits layout) : block chain.bytes 0 magic.size = magic := by
  rw [h.block_front (by decide), front, Array.append_assoc, Array.append_assoc, Array.append_assoc,
    block_append_left (by simp)]
  simp [block]

theorem block_digest (h : chain.Fits layout) :
    block chain.bytes digestStart 32 = chain.digest := by
  obtain ⟨hmagic, hdigest, -, -⟩ := h.sizes
  rw [h.block_front (by decide), front, Array.append_assoc,
    block_append_left (by rw [hdigest]; decide), block_append_right hmagic h.digest]

theorem block_registers (h : chain.Fits layout) :
    block chain.bytes registersStart 7 = chain.registers := by
  obtain ⟨-, hdigest, hregisters, -⟩ := h.sizes
  rw [h.block_front (by decide), front, block_append_left (by rw [hregisters]; decide),
    block_append_right hdigest h.registers]

theorem getD_bank (h : chain.Fits layout) : chain.bytes.getD bankStart 0 = chain.bank := by
  obtain ⟨-, -, hregisters, hfront⟩ := h.sizes
  simp only [bytes, Array.append_assoc]
  rw [getD_append_left (by rw [hfront]; decide), front]
  simp [← hregisters]

theorem block_ram (h : chain.Fits layout) : block chain.bytes ramStart ramSize = chain.ram := by
  have hram := h.size_ram
  simp only [bytes]
  rw [Array.append_assoc, Array.append_assoc, block_append_left (by omega),
    block_append_right h.sizes.2.2.2 h.ram]

theorem block_expansionRam (h : chain.Fits layout) (hlayout : layout.expansionRam) :
    block chain.bytes (ramStart + ramSize) ramSize = chain.expansionRam := by
  have hsize := h.expansionRam
  rw [if_pos hlayout] at hsize
  have hfront := h.size_ram
  rw [bytes, Array.append_assoc, block_append_left (by rw [Array.size_append]; omega),
    block_append_right hfront hsize]

theorem block_riot (h : chain.Fits layout) (hlayout : layout.riot) :
    block chain.bytes layout.riotStart Riot.snapshotSize = chain.riot := by
  have hsize := h.riot
  rw [if_pos hlayout] at hsize
  have hfront := h.size_expansionRam
  rw [bytes, block_append_left (by rw [Array.size_append]; omega),
    block_append_right hfront hsize]

theorem block_xm (h : chain.Fits layout) (hlayout : layout.xm) :
    block chain.bytes layout.xmStart ExpansionModule.snapshotSize = chain.xm := by
  have hsize := h.xm
  rw [if_pos hlayout] at hsize
  rw [bytes, block_append_right h.size_riot hsize]

/-- What a cartridge has a use for in a chain. -/
theorem partsOf_bytes (h : chain.Fits layout) (cartridge : Cartridge) :
    partsOf layout chain.bytes cartridge =
      { registers := registersOf chain.registers
        bank := chain.bank
        ram := chain.ram
        expansionRam :=
          if layout.expansionRam && hasExpansionRam cartridge then some chain.expansionRam else none
        riot := if layout.riot then some chain.riot else none
        xm := if layout.xm && cartridge.expansion then some chain.xm else none } := by
  have hexpansion : ∀ wanted : Bool, (if layout.expansionRam && wanted then
      some (block chain.bytes (ramStart + ramSize) ramSize) else none) =
      if layout.expansionRam && wanted then some chain.expansionRam else none := by
    intro wanted
    split
    · rename_i hc
      rw [h.block_expansionRam (Bool.and_eq_true_iff.1 hc).1]
    · rfl
  have hriot : (if layout.riot then some (block chain.bytes layout.riotStart Riot.snapshotSize)
      else none) = if layout.riot then some chain.riot else none := by
    split
    · rename_i hc
      rw [h.block_riot hc]
    · rfl
  have hxm : ∀ wanted : Bool, (if layout.xm && wanted then
      some (block chain.bytes layout.xmStart ExpansionModule.snapshotSize) else none) =
      if layout.xm && wanted then some chain.xm else none := by
    intro wanted
    split
    · rename_i hc
      rw [h.block_xm (Bool.and_eq_true_iff.1 hc).1]
    · rfl
  rw [partsOf, h.block_registers, h.getD_bank, h.block_ram, hexpansion, hriot, hxm]

/-- A chain with the digest and the blocks of a cartridge is accepted for it. -/
theorem parse_bytes (h : chain.Fits layout) (hlayout : Layout.ofSize? layout.size = some layout)
    {cartridge : Cartridge} (hdigest : chain.digest = Text.asciiBytes cartridge.digest)
    (hexpansion : hasExpansionRam cartridge → layout.expansionRam) :
    parse chain.bytes (some cartridge) = .ok (partsOf layout chain.bytes cartridge) := by
  have hmissing : ¬ (hasExpansionRam cartridge ∧ ¬ layout.expansionRam) := fun hm =>
    hm.2 (hexpansion hm.1)
  unfold parse
  rw [h.size_bytes, hlayout]
  simp only [h.block_magic, h.block_digest, hdigest, ne_eq, not_true_eq_false, if_false,
    if_neg hmissing]

end Fits
end Chain

/-! ## The state of a console -/

theorem size_digest (cartridge : Cartridge) : (Text.asciiBytes cartridge.digest).size = 32 := by
  rw [cartridge.digest_eq]
  simp only [Text.asciiBytes, Md5.hexDigest, String.toList_ofList, List.size_toArray,
    List.length_map, Text.length_flatMap_byteHex, Md5.length_digest]

theorem size_slice (memory : Memory) {address : UInt16} {count : Nat}
    (h : address.toNat + count ≤ addressCount) : (memory.slice address count).size = count := by
  simp only [Memory.slice, Array.size_extract, Vector.size_toArray]
  omega

@[simp] theorem registersOf_registerBytes (r : Registers) :
    registersOf (registerBytes r) = r := by
  simp [registersOf, registerBytes]

/-- The size of a state tells which layout it has. -/
theorem ofSize?_size (expansionRam xm : Bool) :
    Layout.ofSize? (Layout.size ⟨expansionRam, true, xm⟩) = some ⟨expansionRam, true, xm⟩ := by
  cases expansionRam <;> cases xm <;> rfl

/-- What a console with a cartridge saves. -/
def chainOf (board : Board μ σ) (cartridge : Cartridge) : Chain where
  digest := Text.asciiBytes cartridge.digest
  registers := registerBytes board.cpu.registers
  bank := cartridge.bank
  ram := board.bus.memory.slice 0 ramSize
  expansionRam :=
    if hasExpansionRam cartridge then board.bus.memory.slice 0x4000 ramSize else #[]
  riot := board.bus.riot.snapshot
  xm :=
    match board.bus.xm with
    | some xm => xm.snapshot
    | none => #[]

/-- The layout of what a cartridge's console saves. -/
def layoutOf (cartridge : Cartridge) : Layout where
  expansionRam := hasExpansionRam cartridge
  riot := true
  xm := cartridge.expansion

theorem fits_chainOf {board : Board μ σ} {cartridge : Cartridge}
    (hxm : board.bus.xm.isSome = cartridge.expansion) :
    (chainOf board cartridge).Fits (layoutOf cartridge) where
  digest := size_digest cartridge
  registers := rfl
  ram := size_slice board.bus.memory (show (0 : UInt16).toNat + ramSize ≤ addressCount by decide)
  expansionRam := by
    by_cases hram : hasExpansionRam cartridge
    · rw [if_pos (show (layoutOf cartridge).expansionRam from hram)]
      simp only [chainOf, if_pos hram]
      exact size_slice _ (show (0x4000 : UInt16).toNat + ramSize ≤ addressCount by decide)
    · rw [if_neg (show ¬ (layoutOf cartridge).expansionRam from hram)]
      simp only [chainOf, if_neg hram]
      rfl
  riot := rfl
  xm := by
    simp only [chainOf, layoutOf, ← hxm]
    cases board.bus.xm with
    | none => rfl
    | some xm => exact xm.size_snapshot

/-- The parts of what a console with a cartridge saves. -/
def savedParts (board : Board μ σ) (cartridge : Cartridge) : Parts where
  registers := board.cpu.registers
  bank := cartridge.bank
  ram := board.bus.memory.slice 0 ramSize
  expansionRam :=
    if hasExpansionRam cartridge then some (board.bus.memory.slice 0x4000 ramSize) else none
  riot := some board.bus.riot.snapshot
  xm := board.bus.xm.map (·.snapshot)

end SaveState

theorem Console.saveState_eq {console : Console μ σ} {cartridge : Cartridge}
    (h : console.cartridge? = some cartridge) :
    console.saveState = (SaveState.chainOf console.board cartridge).bytes := by
  simp only [saveState, h]
  rfl

theorem Console.parse_saveState {console : Console μ σ} {cartridge : Cartridge}
    (h : console.cartridge? = some cartridge)
    (hxm : console.board.bus.xm.isSome = cartridge.expansion) :
    SaveState.parse console.saveState console.cartridge? =
      .ok (SaveState.savedParts console.board cartridge) := by
  have hfits := SaveState.fits_chainOf hxm
  rw [saveState_eq h, h, hfits.parse_bytes (SaveState.ofSize?_size _ _) rfl id,
    hfits.partsOf_bytes]
  simp only [SaveState.chainOf, SaveState.layoutOf, SaveState.savedParts, ← hxm, Bool.and_self,
    SaveState.registersOf_registerBytes, if_true]
  by_cases hram : SaveState.hasExpansionRam cartridge
  · cases console.board.bus.xm <;> simp [hram]
  · cases console.board.bus.xm <;> simp [hram]

end Console7800
