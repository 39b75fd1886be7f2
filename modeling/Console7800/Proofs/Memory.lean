import Console7800.Memory

/-!
# Memory, one address at a time

What each operation leaves at an address, as a byte (`read_`) and as a protection flag (`isRom_`).
An overlay settles some extents of memory and leaves the rest alone, whatever memory it is applied
to (`Overlays`): mapping a ROM is one. `SameAbove` compares cartridge space.
-/

namespace Console7800.Memory

/-- `address` is one of the `count` addresses from `start` on. -/
def Within (start : UInt16) (count : Nat) (address : UInt16) : Prop :=
  start.toNat ≤ address.toNat ∧ address.toNat < start.toNat + count

instance (start : UInt16) (count : Nat) (address : UInt16) :
    Decidable (Within start count address) :=
  inferInstanceAs (Decidable (_ ∧ _))

theorem not_within_zero (start address : UInt16) : ¬ Within start 0 address := by
  rintro ⟨hstart, hend⟩
  omega

theorem getElem_overwrite_eq (ram : Vector UInt8 addressCount) (start address : UInt16)
    (data : Bytes) (h : address.toNat < addressCount) :
    (Cells.overwrite ram start.toNat data)[address.toNat] =
      if Within start data.size address then data.getD (address.toNat - start.toNat) 0
      else ram[address.toNat] := by
  rw [Cells.getElem_overwrite]
  by_cases hin : start.toNat ≤ address.toNat ∧ address.toNat < start.toNat + data.size
  · have hlt : address.toNat - start.toNat < data.size := by omega
    rw [dif_pos hin, if_pos (show Within start data.size address from hin)]
    simp [hlt]
  · rw [dif_neg hin, if_neg (show ¬ Within start data.size address from hin)]

theorem read_writeRom (memory : Memory) (start address : UInt16) (data : Bytes) :
    (memory.writeRom start data).read address =
      if Within start data.size address then data.getD (address.toNat - start.toNat) 0
      else memory.read address :=
  getElem_overwrite_eq ..

theorem isRom_writeRom (memory : Memory) (start address : UInt16) (data : Bytes) :
    (memory.writeRom start data).isRom address =
      if Within start data.size address then true else memory.isRom address :=
  Cells.getElem_fill ..

theorem read_clearRom (memory : Memory) (start address : UInt16) (count : Nat) :
    (memory.clearRom start count).read address =
      if Within start count address then 0 else memory.read address :=
  Cells.getElem_fill ..

theorem isRom_clearRom (memory : Memory) (start address : UInt16) (count : Nat) :
    (memory.clearRom start count).isRom address =
      if Within start count address then false else memory.isRom address :=
  Cells.getElem_fill ..

theorem read_load (memory : Memory) (start address : UInt16) (data : Bytes) :
    (memory.load start data).read address =
      if Within start data.size address then data.getD (address.toNat - start.toNat) 0
      else memory.read address :=
  getElem_overwrite_eq ..

@[simp] theorem isRom_load (memory : Memory) (start address : UInt16) (data : Bytes) :
    (memory.load start data).isRom address = memory.isRom address := rfl

@[simp] theorem read_powerOn (address : UInt16) : powerOn.read address = 0 := by
  simp [read, powerOn]

theorem isRom_powerOn (address : UInt16) :
    powerOn.isRom address = decide (cartridgeStart ≤ address.toNat) := by
  have hlt : address.toNat < addressCount := address.toNat_lt
  have hflag : powerOn.isRom address =
      if Within 0 cartridgeStart address then false
      else (Vector.replicate addressCount true)[address.toNat] := Cells.getElem_fill ..
  rw [hflag, Vector.getElem_replicate]
  by_cases h : cartridgeStart ≤ address.toNat
  · rw [if_neg (fun hin => by have := hin.2; simp at this; omega), decide_eq_true h]
  · rw [if_pos ⟨Nat.zero_le _, by simp; omega⟩, decide_eq_false h]

/-! ## Shadows -/

/-- What is stored here is seen again at $2000 higher. -/
def IsShadowed (address : UInt16) : Prop :=
  0x0040 ≤ address ∧ address ≤ 0x00FF ∨ 0x0140 ≤ address ∧ address ≤ 0x01FF

theorem IsShadowed.toNat {address : UInt16} (h : IsShadowed address) :
    0x0040 ≤ address.toNat ∧ address.toNat ≤ 0x01FF ∧
      (address + 0x2000).toNat = address.toNat + 0x2000 := by
  simp only [IsShadowed, UInt16.le_iff_toNat_le, UInt16.toNat_add, UInt16.reduceToNat] at h ⊢
  omega

/-- An address and what `shadow?` has for it are a shadowed one and its shadow, or the reverse. -/
theorem shadow?_eq_some_iff {address shadow : UInt16} :
    shadow? address = some shadow ↔
      IsShadowed address ∧ shadow = address + 0x2000 ∨
        IsShadowed shadow ∧ address = shadow + 0x2000 := by
  have haddress := address.toNat_lt
  have hshadow := shadow.toNat_lt
  unfold shadow? IsShadowed
  simp only [UInt16.le_iff_toNat_le, UInt16.reduceToNat, ← UInt16.toNat_inj, UInt16.toNat_add]
  split
  · rw [Option.some.injEq, ← UInt16.toNat_inj, UInt16.toNat_sub]
    simp only [UInt16.reduceToNat]
    omega
  · split
    · rw [Option.some.injEq, ← UInt16.toNat_inj, UInt16.toNat_add]
      simp only [UInt16.reduceToNat]
      omega
    · simp only [reduceCtorEq, false_iff]
      omega

theorem shadow?_comm (first second : UInt16) :
    shadow? first = some second ↔ shadow? second = some first := by
  rw [shadow?_eq_some_iff, shadow?_eq_some_iff, or_comm]

theorem IsShadowed.shadow?_eq {address : UInt16} (h : IsShadowed address) :
    shadow? address = some (address + 0x2000) :=
  shadow?_eq_some_iff.2 (.inl ⟨h, rfl⟩)

/-- Only console RAM has shadows, and they lie in console RAM. -/
theorem shadow?_lt {address shadow : UInt16} (h : shadow? address = some shadow) :
    address.toNat < cartridgeStart ∧ shadow.toNat < cartridgeStart := by
  rw [cartridgeStart]
  rcases shadow?_eq_some_iff.1 h with ⟨hshadowed, rfl⟩ | ⟨hshadowed, rfl⟩
  · have := hshadowed.toNat
    omega
  · have := hshadowed.toNat
    omega

/-! ## Stores -/

@[simp] theorem isRom_store (memory : Memory) (address other : UInt16) (value : UInt8) :
    (memory.store address value).isRom other = memory.isRom other := by
  unfold store
  dsimp only
  split <;> simp [isRom_poke]

theorem read_store (memory : Memory) (address other : UInt16) (value : UInt8) :
    (memory.store address value).read other =
      if address = other ∨ shadow? address = some other then value else memory.read other := by
  unfold store
  dsimp only
  cases hshadow : shadow? address with
  | none =>
    simp only [read_poke, reduceCtorEq, or_false]
  | some shadow =>
    simp only [read_poke, Option.some.injEq]
    by_cases hsame : address = other <;> by_cases hother : shadow = other <;> simp [hsame, hother]

/-- Cartridge space has no shadows. -/
theorem store_above (memory : Memory) {address : UInt16} (value : UInt8)
    (h : cartridgeStart ≤ address.toNat) :
    memory.store address value = memory.poke address value := by
  have hnone : shadow? address = none := by
    cases hshadow : shadow? address with
    | none => rfl
    | some shadow => exact absurd (shadow?_lt hshadow).1 (Nat.not_lt.2 h)
  unfold store
  simp only [hnone]

/-- A store reaches cartridge space at its own address only. -/
theorem read_store_above (memory : Memory) {address other : UInt16} (value : UInt8)
    (hother : cartridgeStart ≤ other.toNat) (hne : address ≠ other) :
    (memory.store address value).read other = memory.read other := by
  rw [read_store, if_neg]
  rintro (heq | hshadow)
  · exact hne heq
  · exact absurd (shadow?_lt hshadow).2 (Nat.not_lt.2 hother)

/-! ## Overlays -/

section

variable {extents : List (UInt16 × Nat)} {f : Memory → Memory} {address : UInt16}

/-- One of the extents, each a start and a number of addresses, has the address. -/
def Covers (extents : List (UInt16 × Nat)) (address : UInt16) : Prop :=
  ∃ extent ∈ extents, Within extent.1 extent.2 address

instance (extents : List (UInt16 × Nat)) (address : UInt16) : Decidable (Covers extents address) :=
  inferInstanceAs (Decidable (∃ extent ∈ extents, _))

theorem covers_cons (start : UInt16) (count : Nat) (extents : List (UInt16 × Nat))
    (address : UInt16) :
    Covers ((start, count) :: extents) address ↔
      Within start count address ∨ Covers extents address := by
  simp [Covers]

theorem covers_singleton (start : UInt16) (count : Nat) (address : UInt16) :
    Covers [(start, count)] address ↔ Within start count address := by
  simp [Covers]

/-- `f` makes something of its own of the extents and leaves the rest of memory alone. -/
structure Overlays (extents : List (UInt16 × Nat)) (f : Memory → Memory) : Prop where
  inside : ∀ address, Covers extents address → ∃ value flag, ∀ memory,
    (f memory).read address = value ∧ (f memory).isRom address = flag
  outside : ∀ address, ¬ Covers extents address → ∀ memory,
    (f memory).read address = memory.read address ∧
      (f memory).isRom address = memory.isRom address

theorem overlays_nil : Overlays [] fun memory => memory where
  inside _ h := by simp [Covers] at h
  outside _ _ _ := ⟨rfl, rfl⟩

/-- Over an overlay comes something that has one extent more. -/
theorem Overlays.cons (h : Overlays extents f) {start : UInt16} {count : Nat}
    {g : Memory → Memory} (hg : Overlays [(start, count)] g) :
    Overlays ((start, count) :: extents) fun memory => g (f memory) := by
  refine ⟨fun address hcovers => ?_, fun address hcovers memory => ?_⟩
  · by_cases hin : Within start count address
    · obtain ⟨value, flag, hset⟩ := hg.inside address ((covers_singleton ..).2 hin)
      exact ⟨value, flag, fun memory => hset (f memory)⟩
    · have hkept := hg.outside address (mt (covers_singleton ..).1 hin)
      obtain ⟨value, flag, hset⟩ :=
        h.inside address (((covers_cons ..).1 hcovers).resolve_left hin)
      exact ⟨value, flag, fun memory =>
        ⟨(hkept _).1.trans (hset memory).1, (hkept _).2.trans (hset memory).2⟩⟩
  · rw [covers_cons, not_or] at hcovers
    have hkept := hg.outside address (mt (covers_singleton ..).1 hcovers.1) (f memory)
    have hkept' := h.outside address hcovers.2 memory
    exact ⟨hkept.1.trans hkept'.1, hkept.2.trans hkept'.2⟩

theorem overlays_writeRom (start : UInt16) (data : Bytes) :
    Overlays [(start, data.size)] (·.writeRom start data) := by
  refine ⟨fun address hcovers => ⟨data.getD (address.toNat - start.toNat) 0, true,
    fun memory => ?_⟩, fun address hcovers memory => ?_⟩
  all_goals rw [covers_singleton] at hcovers
  all_goals rw [read_writeRom, isRom_writeRom]
  · exact ⟨if_pos hcovers, if_pos hcovers⟩
  · exact ⟨if_neg hcovers, if_neg hcovers⟩

theorem overlays_clearRom (start : UInt16) (count : Nat) :
    Overlays [(start, count)] (·.clearRom start count) := by
  refine ⟨fun address hcovers => ⟨0, false, fun memory => ?_⟩, fun address hcovers memory => ?_⟩
  all_goals rw [covers_singleton] at hcovers
  all_goals rw [read_clearRom, isRom_clearRom]
  · exact ⟨if_pos hcovers, if_pos hcovers⟩
  · exact ⟨if_neg hcovers, if_neg hcovers⟩

theorem Overlays.eq_inside (h : Overlays extents f) (hcovers : Covers extents address)
    (first second : Memory) :
    (f first).read address = (f second).read address ∧
      (f first).isRom address = (f second).isRom address := by
  obtain ⟨value, flag, hset⟩ := h.inside address hcovers
  exact ⟨(hset first).1.trans (hset second).1.symm, (hset first).2.trans (hset second).2.symm⟩

end

/-! ## Cartridge space -/

/-- Two memories show and protect the same from $4000 up. -/
def SameAbove (first second : Memory) : Prop :=
  ∀ address : UInt16, cartridgeStart ≤ address.toNat →
    first.read address = second.read address ∧ first.isRom address = second.isRom address

namespace SameAbove

variable {first second third : Memory}

theorem refl (memory : Memory) : SameAbove memory memory := fun _ _ => ⟨rfl, rfl⟩

theorem symm (h : SameAbove first second) : SameAbove second first :=
  fun address habove => ⟨(h address habove).1.symm, (h address habove).2.symm⟩

theorem trans (h₁ : SameAbove first second) (h₂ : SameAbove second third) :
    SameAbove first third := fun address habove =>
  ⟨(h₁ address habove).1.trans (h₂ address habove).1,
    (h₁ address habove).2.trans (h₂ address habove).2⟩

end SameAbove

theorem sameAbove_poke (memory : Memory) {address : UInt16} (value : UInt8)
    (h : address.toNat < cartridgeStart) : SameAbove (memory.poke address value) memory := by
  intro other hother
  have hne : address ≠ other := by
    rintro rfl
    exact absurd h (Nat.not_lt.2 hother)
  exact ⟨by rw [read_poke, if_neg hne], isRom_poke ..⟩

theorem sameAbove_store (memory : Memory) {address : UInt16} (value : UInt8)
    (h : address.toNat < cartridgeStart) : SameAbove (memory.store address value) memory := by
  intro other hother
  have hne : address ≠ other := by
    rintro rfl
    exact absurd h (Nat.not_lt.2 hother)
  exact ⟨read_store_above memory value hother hne, isRom_store ..⟩

theorem sameAbove_load (memory : Memory) {data : Bytes} (h : data.size ≤ cartridgeStart) :
    SameAbove (memory.load 0 data) memory := by
  intro address habove
  have hout : ¬ Within 0 data.size address := fun hin => by
    have := hin.2
    simp at this
    omega
  rw [read_load, if_neg hout]
  exact ⟨rfl, rfl⟩

/-- Two memories protect the same from $4000 up, and show the same wherever they protect it. -/
def SameProtected (first second : Memory) : Prop :=
  ∀ address : UInt16, cartridgeStart ≤ address.toNat →
    first.isRom address = second.isRom address ∧
      (second.isRom address = true → first.read address = second.read address)

theorem SameAbove.protected {first second : Memory} (h : SameAbove first second) :
    SameProtected first second := fun address habove =>
  ⟨(h address habove).2, fun _ => (h address habove).1⟩

theorem SameProtected.refl (memory : Memory) : SameProtected memory memory :=
  (SameAbove.refl memory).protected

theorem SameProtected.trans {first second third : Memory} (h₁ : SameProtected first second)
    (h₂ : SameProtected second third) : SameProtected first third := by
  intro address habove
  obtain ⟨hrom₁, hread₁⟩ := h₁ address habove
  obtain ⟨hrom₂, hread₂⟩ := h₂ address habove
  exact ⟨hrom₁.trans hrom₂, fun hprotected =>
    (hread₁ (hrom₂.trans hprotected)).trans (hread₂ hprotected)⟩

theorem sameProtected_store (memory : Memory) {address : UInt16} (value : UInt8)
    (h : memory.isRom address = false) : SameProtected (memory.store address value) memory := by
  refine fun other hother => ⟨isRom_store .., fun hprotected => ?_⟩
  refine read_store_above memory value hother ?_
  rintro rfl
  simp [h] at hprotected

end Console7800.Memory
