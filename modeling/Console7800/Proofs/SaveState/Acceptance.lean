import Console7800.Proofs.SaveState.Forgetting

/-!
# Which states are accepted

`Acceptable` says, without the reader, what makes a state acceptable for a cartridge: its size, its
magic, its digest, and the second block of RAM where the cartridge has that RAM. The reader accepts
exactly those (`exists_parse_iff`), and finds every block of an accepted state whole
(`whole_of_parse`). No frame changes what the check looks at, so checking twice with a second of
frames in between gives one answer.
-/

namespace Console7800

namespace SaveState

/-- The sizes that a state can have. -/
def acceptedSizes : List Nat := [16445, 32829, 16453, 32837, 147526, 163910]

/-- The sizes of states that carry RAM from $4000. -/
def expansionSizes : List Nat := [32829, 32837, 163910]

/-- What makes a state acceptable for a cartridge. -/
structure Acceptable (data : Bytes) (cartridge : Cartridge) : Prop where
  size : data.size ∈ acceptedSizes
  magic : data.extract 0 16 = Text.asciiBytes "PRO-SYSTEM STATE"
  digest : data.extract 21 53 = Text.asciiBytes cartridge.digest
  expansionRam : cartridge.mapper = .supercartRam → data.size ∈ expansionSizes

/-! ## Sizes and layouts -/

theorem map_size_all : Layout.all.map Layout.size = acceptedSizes := by decide

theorem mem_of_ofSize? {size : Nat} {layout : Layout} (h : Layout.ofSize? size = some layout) :
    layout ∈ Layout.all ∧ layout.size = size := by
  unfold Layout.ofSize? at h
  exact ⟨List.mem_of_find?_eq_some h, by simpa using List.find?_some h⟩

theorem ofSize?_eq_none_iff {size : Nat} :
    Layout.ofSize? size = none ↔ size ∉ acceptedSizes := by
  rw [← map_size_all, Layout.ofSize?, List.find?_eq_none]
  simp

/-- Which states carry RAM from $4000 shows in their size. -/
theorem expansionRam_iff {size : Nat} {layout : Layout} (h : Layout.ofSize? size = some layout) :
    layout.expansionRam = true ↔ size ∈ expansionSizes := by
  obtain ⟨hmem, rfl⟩ := mem_of_ofSize? h
  have hall : ∀ layout ∈ Layout.all,
      (layout.expansionRam = true ↔ layout.size ∈ expansionSizes) := by decide
  exact hall layout hmem

/-! ## Acceptance -/

/-- What the reader accepts, and what it makes of it. -/
theorem parse_eq_ok_iff {data : Bytes} {cartridge? : Option Cartridge} {parts : Parts} :
    parse data cartridge? = .ok parts ↔
      ∃ cartridge ∈ cartridge?, Acceptable data cartridge ∧
        ∃ layout, Layout.ofSize? data.size = some layout ∧
          partsOf layout data cartridge = parts := by
  constructor
  · intro h
    unfold parse at h
    split at h
    · cases h
    · rename_i layout hlayout
      split at h
      · cases h
      · rename_i hmagic
        cases cartridge? with
        | none => cases h
        | some cartridge =>
          dsimp only at h
          split at h
          · cases h
          · rename_i hdigest
            split at h
            · cases h
            · rename_i hmissing
              have hsize : data.size ∈ acceptedSizes := Decidable.not_not.1 fun hsize => by
                simp [ofSize?_eq_none_iff.2 hsize] at hlayout
              have hexpansion (hmapper : cartridge.mapper = .supercartRam) :
                  data.size ∈ expansionSizes :=
                (expansionRam_iff hlayout).1 (Decidable.not_not.1 fun hram =>
                  hmissing ⟨by simp [hasExpansionRam, hmapper], hram⟩)
              exact ⟨cartridge, rfl,
                ⟨hsize, Decidable.not_not.1 hmagic, Decidable.not_not.1 hdigest, hexpansion⟩,
                layout, hlayout, Except.ok.inj h⟩
  · rintro ⟨cartridge, rfl, ⟨-, hmagic, hdigest, hexpansion⟩, layout, hlayout, rfl⟩
    have hmissing : ¬ (hasExpansionRam cartridge = true ∧ ¬ layout.expansionRam = true) := by
      rintro ⟨hram, hlacks⟩
      exact hlacks ((expansionRam_iff hlayout).2 (hexpansion (eq_of_beq hram)))
    have hmagicBlock : block data 0 magic.size = magic := hmagic
    have hdigestBlock : block data digestStart 32 = Text.asciiBytes cartridge.digest := hdigest
    unfold parse
    rw [hlayout]
    dsimp only
    rw [if_neg (Decidable.not_not.2 hmagicBlock), if_neg (Decidable.not_not.2 hdigestBlock),
      if_neg hmissing]

/-- Every part of a state was read to its end. -/
structure Parts.Whole (parts : Parts) : Prop where
  ram : parts.ram.size = ramSize
  expansionRam : ∀ ram ∈ parts.expansionRam, ram.size = ramSize
  riot : ∀ data ∈ parts.riot, data.size = Riot.snapshotSize
  xm : ∀ data ∈ parts.xm, data.size = ExpansionModule.snapshotSize

theorem size_block {data : Bytes} {start size : Nat} (h : start + size ≤ data.size) :
    (block data start size).size = size := by
  simp only [block, Array.size_extract]
  omega

theorem whole_partsOf {layout : Layout} {data : Bytes} (h : layout.size = data.size)
    (cartridge : Cartridge) : (partsOf layout data cartridge).Whole := by
  have hriot : layout.riotStart =
    ramStart + ramSize + (if layout.expansionRam then ramSize else 0) := rfl
  have hxm : layout.xmStart =
    layout.riotStart + (if layout.riot then Riot.snapshotSize else 0) := rfl
  have hend : layout.size =
    layout.xmStart + (if layout.xm then ExpansionModule.snapshotSize else 0) := rfl
  refine ⟨size_block (by omega), fun ram hmem => ?_, fun block hmem => ?_, fun block hmem => ?_⟩
  · simp only [partsOf, Option.mem_def, Option.ite_none_right_eq_some, Bool.and_eq_true] at hmem
    obtain ⟨⟨hlayout, -⟩, hblock⟩ := hmem
    rw [if_pos hlayout] at hriot
    rw [← Option.some.inj hblock]
    exact size_block (by omega)
  · simp only [partsOf, Option.mem_def, Option.ite_none_right_eq_some] at hmem
    obtain ⟨hlayout, hblock⟩ := hmem
    rw [if_pos hlayout] at hxm
    rw [← Option.some.inj hblock]
    exact size_block (by omega)
  · simp only [partsOf, Option.mem_def, Option.ite_none_right_eq_some, Bool.and_eq_true] at hmem
    obtain ⟨⟨hlayout, -⟩, hblock⟩ := hmem
    rw [if_pos hlayout] at hend
    rw [← Option.some.inj hblock]
    exact size_block (by omega)

/-- An accepted state is read to its end, and not past it. -/
theorem whole_of_parse {data : Bytes} {cartridge? : Option Cartridge} {parts : Parts}
    (h : parse data cartridge? = .ok parts) : bankStart < data.size ∧ parts.Whole := by
  obtain ⟨cartridge, -, -, layout, hlayout, rfl⟩ := parse_eq_ok_iff.1 h
  obtain ⟨hmem, hsize⟩ := mem_of_ofSize? hlayout
  have hbank : ∀ layout ∈ Layout.all, bankStart < layout.size := by decide
  exact ⟨hsize ▸ hbank layout hmem, whole_partsOf hsize cartridge⟩

end SaveState

namespace Console

variable {μ σ : Type} [SoundChip σ] [DisplayChip μ]

theorem evolves_runFramesWith (controls : Controls) (count : Nat) (console : Console μ σ) :
    SystemBus.Evolves console.board.bus (runFramesWith controls count console).board.bus := by
  induction count generalizing console with
  | zero => exact .refl
  | succ count ih => exact (console.evolves_runFrameWith controls).trans (ih _)

end Console

end Console7800
