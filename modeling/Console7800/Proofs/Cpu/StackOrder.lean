import Console7800.Proofs.Access
import Console7800.Proofs.Cpu.Footprint
import Console7800.Proofs.Cpu.StackPage
import Console7800.Proofs.SystemBus.Modest

/-!
# What is pushed last is pulled first

Up to a page of bytes is pushed and as many are pulled again. They come back in reverse order and
the stack pointer comes back with them, wherever it wraps (`Bus.pushPull_run`). Nothing is touched
but page one (`Registers.within_pushPull`), part of which is seen again $2000 higher on the
console's bus (`Memory.isStackShadow_of_shadow?`).
-/

namespace Console7800

/-! ## Many bytes -/

/-- Put bytes on the stack, one after the other. -/
def Registers.pushAll (r : Registers) (values : List UInt8) : Access Registers :=
  values.foldlM Registers.pushByte r

/-- Take bytes off the stack, the last one that was put there first. -/
def Registers.pullAll (r : Registers) : Nat → Access (List UInt8 × Registers)
  | 0 => return ([], r)
  | count + 1 => do
    let (value, r) ← r.pullByte
    let (values, r) ← r.pullAll count
    return (value :: values, r)

/-- Put bytes on the stack and take as many off it. -/
def Registers.pushPull (r : Registers) (values : List UInt8) : Access (List UInt8 × Registers) := do
  let r ← r.pushAll values
  r.pullAll values.length

theorem Registers.pushAll_cons (r : Registers) (value : UInt8) (values : List UInt8) :
    r.pushAll (value :: values) =
      .write (stackAddress r.s) value ({ r with s := r.s - 1 }.pushAll values) := by
  simp [pushAll, pushByte, push, Access.put, stackTop, stackAddress]

namespace Bus.Live

variable {β : Type} [Bus β] {bus : β} {r : Registers} {base : UInt8} {bytes : List UInt8}

theorem pushAll (h : Live bus base r.s bytes) (values : List UInt8)
    (hlength : bytes.length + values.length ≤ 256) :
    ∃ s after, (r.pushAll values).run bus = ({ r with s }, after) ∧
      Live after base s (values.reverse ++ bytes) := by
  induction values generalizing r bus bytes with
  | nil => exact ⟨r.s, bus, rfl, h⟩
  | cons value values ih =>
    rw [List.length_cons] at hlength
    have hpushed := h.push (by omega) value
    obtain ⟨s, after, hrun, hlive⟩ := ih (r := { r with s := r.s - 1 }) hpushed
      (by rw [List.length_cons]; omega)
    refine ⟨s, after, ?_, ?_⟩
    · rw [Registers.pushAll_cons]
      exact hrun
    · simpa using hlive

theorem pullAll (h : Live bus base r.s bytes) :
    ∃ after, (r.pullAll bytes.length).run bus = ((bytes, { r with s := base }), after) := by
  induction bytes generalizing r bus with
  | nil =>
    obtain rfl := h.eq_base
    exact ⟨bus, rfl⟩
  | cons value bytes ih =>
    obtain ⟨middle, hpull, hrest⟩ := h.pullByte
    obtain ⟨after, hrun⟩ := ih (r := { r with s := r.s + 1 }) hrest
    refine ⟨after, ?_⟩
    simp [Registers.pullAll, Access.run_bind, hpull, hrun]

end Bus.Live

/-- On any bus whose page one is plain RAM, up to a page of bytes comes back in reverse order, and
the registers are as they were. -/
theorem Bus.pushPull_run {β : Type} [Bus β] {bus : β} {page : UInt8 → UInt8}
    (h : StackHolds bus page) (r : Registers) {values : List UInt8}
    (hlength : values.length ≤ 256) :
    ((r.pushPull values).run bus).1 = (values.reverse, r) := by
  obtain ⟨s, middle, hpush, hlive⟩ :=
    (Live.nil h r.s).pushAll (r := r) values (by simpa using hlength)
  rw [List.append_nil] at hlive
  obtain ⟨after, hpull⟩ := Live.pullAll (r := { r with s }) hlive
  rw [List.length_reverse] at hpull
  simp [Registers.pushPull, Access.run_bind, hpush, hpull]

/-! ## Nothing but page one -/

/-- The address is in page one. -/
def IsStack (address : UInt16) : Prop := 0x0100 ≤ address ∧ address ≤ 0x01FF

theorem isStack_stackAddress (s : UInt8) : IsStack (stackAddress s) :=
  ({ s } : Registers).stackTop_page

namespace Registers

theorem within_pushAll (r : Registers) (values : List UInt8) :
    (r.pushAll values).Within IsStack := by
  induction values generalizing r with
  | nil => trivial
  | cons value values ih =>
    rw [pushAll_cons]
    exact ⟨isStack_stackAddress r.s, ih _⟩

theorem within_pullAll (r : Registers) (count : Nat) : (r.pullAll count).Within IsStack := by
  induction count generalizing r with
  | zero => trivial
  | succ count ih =>
    exact ⟨isStack_stackAddress (r.s + 1), fun _ => (ih _).bind fun _ => trivial⟩

theorem within_pushPull (r : Registers) (values : List UInt8) :
    (r.pushPull values).Within IsStack :=
  (r.within_pushAll values).bind fun r => r.within_pullAll values.length

end Registers

/-! ## Flat RAM -/

theorem FlatRam.peek_pushPull (ram : FlatRam) (r : Registers) (values : List UInt8)
    {address : UInt16} (haddress : ¬ IsStack address) :
    ((r.pushPull values).run ram).2.peek address = ram.peek address := by
  refine (r.within_pushPull values).keeps (fun after : FlatRam => after.peek address = _)
    (fun _ _ _ h => h) (fun after other value hother h => ?_) rfl
  have hne : other ≠ address := fun heq => haddress (heq ▸ hother)
  exact (peek_poke ..).trans ((if_neg hne).trans h)

/-! ## The console's bus -/

/-- The addresses at which part of page one is seen again. -/
def IsStackShadow (address : UInt16) : Prop := 0x2140 ≤ address ∧ address ≤ 0x21FF

/-- What is stored in page one is seen nowhere else. -/
theorem Memory.isStackShadow_of_shadow? {address shadow : UInt16} (h : IsStack address)
    (hshadow : shadow? address = some shadow) : IsStackShadow shadow := by
  simp only [IsStack, IsStackShadow, UInt16.le_iff_toNat_le, UInt16.reduceToNat] at *
  rcases shadow?_eq_some_iff.1 hshadow with ⟨hshadowed, rfl⟩ | ⟨hshadowed, rfl⟩
  · have hnumber := hshadowed.toNat
    simp only [IsShadowed, UInt16.le_iff_toNat_le, UInt16.reduceToNat] at hshadowed
    omega
  · have hnumber := hshadowed.toNat
    omega

theorem not_isStackShadow {address : UInt16} (h : IsStack address) : ¬ IsStackShadow address :=
  fun hshadow => absurd (UInt16.le_trans hshadow.1 h.2) (by decide)

/-- A byte in page one, and one that is not seen of it elsewhere, is left alone by stores to other
addresses of page one. -/
theorem Memory.read_store_stack (memory : Memory) {address other : UInt16} (value : UInt8)
    (h : IsStack address) (hother : ¬ IsStackShadow other) :
    (memory.store address value).read other =
      if address = other then value else memory.read other := by
  have hshadow : shadow? address ≠ some other := fun hshadow =>
    hother (isStackShadow_of_shadow? h hshadow)
  rw [read_store]
  simp only [hshadow, or_false]

namespace SystemBus

variable {σ : Type}

/-- Programs may write page one. -/
def StackWritable (bus : SystemBus σ) : Prop :=
  ∀ address, IsStack address → bus.memory.isRom address = false

/-- Of a bus only page one may have changed, and what is seen of it elsewhere. -/
structure StackOnly (bus after : SystemBus σ) : Prop where
  eq : after = { bus with memory := after.memory }
  isRom : ∀ address, after.memory.isRom address = bus.memory.isRom address
  read : ∀ address, ¬ IsStack address → ¬ IsStackShadow address →
    after.memory.read address = bus.memory.read address

theorem StackOnly.writable {bus after : SystemBus σ} (h : bus.StackOnly after)
    (hwritable : bus.StackWritable) : after.StackWritable :=
  fun address hstack => (h.isRom address).trans (hwritable address hstack)

theorem StackOnly.store {bus after : SystemBus σ} (h : bus.StackOnly after) {address : UInt16}
    (hstack : IsStack address) (value : UInt8) :
    bus.StackOnly (after.mapMemory (·.store address value)) where
  eq := by
    rw [h.eq]
    rfl
  isRom other := (after.memory.isRom_store ..).trans (h.isRom other)
  read other hother hshadow := by
    have hne : address ≠ other := fun heq => hother (heq ▸ hstack)
    exact (after.memory.read_store_stack value hstack hshadow).trans
      ((if_neg hne).trans (h.read other hother hshadow))

variable [SoundChip σ]

theorem read_stack (bus : SystemBus σ) {address : UInt16} (h : IsStack address) :
    bus.read address = (bus.memory.read address, bus) := by
  have hlow : address < 0x0450 := UInt16.lt_of_le_of_lt h.2 (by decide)
  have hriot : ¬ riotStart ≤ address := UInt16.not_le.2 (UInt16.lt_of_le_of_lt h.2 (by decide))
  rw [bus.read_of_no_target (bus.moduleTarget?_below hlow), readConsole,
    bus.pokeyRegister?_below hlow]
  simp [isRiot, hriot]

theorem write_stack {bus : SystemBus σ} (hwritable : bus.StackWritable) {address : UInt16}
    (h : IsStack address) (value : UInt8) :
    bus.write address value = bus.mapMemory (·.store address value) := by
  have hlow : address < 0x0450 := UInt16.lt_of_le_of_lt h.2 (by decide)
  have hriot : ¬ riotStart ≤ address := UInt16.not_le.2 (UInt16.lt_of_le_of_lt h.2 (by decide))
  rw [bus.write_low hlow (hwritable address h),
    bus.writeRegister_above (UInt16.lt_of_lt_of_le (by decide) h.1)]
  simp [isRiot, hriot]

theorem stackHolds {bus : SystemBus σ} (hwritable : bus.StackWritable) :
    Bus.StackHolds bus fun s => bus.memory.read (stackAddress s) := by
  refine ⟨fun bus page => bus.StackWritable ∧ ∀ s, bus.memory.read (stackAddress s) = page s,
    ⟨?_, ?_, ?_⟩, hwritable, fun _ => rfl⟩
  · rintro bus page ⟨-, hpage⟩ s
    exact (congrArg Prod.fst (bus.read_stack (isStack_stackAddress s))).trans (hpage s)
  · rintro bus page ⟨hwritable, hpage⟩ address
    have hmemory : (Bus.read bus address).2.memory = bus.memory := Modest.memory_read bus address
    exact ⟨fun other hother => hmemory ▸ hwritable other hother, fun s => hmemory ▸ hpage s⟩
  · rintro bus page ⟨hwritable, hpage⟩ s value
    have hwrite : Bus.write bus (stackAddress s) value = _ :=
      write_stack hwritable (isStack_stackAddress s) value
    rw [hwrite]
    refine ⟨fun other hother => (bus.memory.isRom_store ..).trans (hwritable other hother),
      fun t => ?_⟩
    have hstored := bus.memory.read_store_stack value (isStack_stackAddress s)
      (not_isStackShadow (isStack_stackAddress t))
    refine hstored.trans ?_
    simp only [Function.update_apply, stackAddress_inj, hpage, eq_comm]

theorem stackOnly_pushPull {bus : SystemBus σ} (hwritable : bus.StackWritable) (r : Registers)
    (values : List UInt8) : bus.StackOnly ((r.pushPull values).run bus).2 := by
  refine (r.within_pushPull values).keeps bus.StackOnly (fun after address hstack h => ?_)
    (fun after address value hstack h => ?_) ⟨rfl, fun _ => rfl, fun _ _ _ => rfl⟩
  · rw [show Bus.read after address = _ from after.read_stack hstack]
    exact h
  · rw [show Bus.write after address value = _ from
      write_stack (h.writable hwritable) hstack value]
    exact h.store hstack value

end SystemBus

/-! ## Both buses -/

/-- On flat RAM and on the console's bus, if programs may write page one there: up to a page of
bytes is pulled in reverse order of how it was pushed, from any stack pointer, and the registers are
back. Outside of page one flat RAM is as it was. So is the whole of the console's bus, except for
the bytes at which page one is seen again. -/
theorem pushPull_lifo {σ : Type} [SoundChip σ] (r : Registers) {values : List UInt8}
    (hlength : values.length ≤ 256) (ram : FlatRam) {bus : SystemBus σ}
    (hwritable : bus.StackWritable) :
    (∃ after, (r.pushPull values).run ram = ((values.reverse, r), after) ∧
      ∀ address, ¬ IsStack address → after.peek address = ram.peek address) ∧
    ∃ memory, (r.pushPull values).run bus = ((values.reverse, r), { bus with memory }) ∧
      (∀ address, memory.isRom address = bus.memory.isRom address) ∧
      ∀ address, ¬ IsStack address → ¬ IsStackShadow address →
        memory.read address = bus.memory.read address := by
  constructor
  · have hholds := FlatRam.stackHolds_iff.2 fun s => (rfl : ram.peek (stackAddress s) = _)
    exact ⟨_, Prod.ext (Bus.pushPull_run hholds r hlength) rfl,
      fun address => ram.peek_pushPull r values⟩
  · have honly := bus.stackOnly_pushPull hwritable r values
    exact ⟨_, Prod.ext (Bus.pushPull_run (bus.stackHolds hwritable) r hlength) honly.eq,
      honly.isRom, honly.read⟩

/-- All bytes there are, on a whole page, from a stack pointer in the middle of it. -/
theorem pushPull_lifo_fullPage :
    let r : Registers := { s := 0x7F }
    let values := (List.range 256).map UInt8.ofNat
    let bus : SystemBus SilentSound := { tia := {}, pokey := {} }
    (values.length ≤ 256 ∧ bus.StackWritable) ∧
      ((r.pushPull values).run ({} : FlatRam)).1 = (values.reverse, r) ∧
      ((r.pushPull values).run bus).1 = (values.reverse, r) := by
  intro r values bus
  have hlength : values.length ≤ 256 := by simp [values]
  have hwritable : bus.StackWritable := by
    intro address hstack
    refine (Memory.isRom_powerOn address).trans (decide_eq_false ?_)
    have hpage := UInt16.le_iff_toNat_le.1 hstack.2
    simp only [UInt16.reduceToNat] at hpage
    rw [cartridgeStart]
    omega
  obtain ⟨⟨ram, hram, -⟩, memory, hmemory, -⟩ := pushPull_lifo r hlength {} hwritable
  exact ⟨⟨hlength, hwritable⟩, congrArg Prod.fst hram, congrArg Prod.fst hmemory⟩

end Console7800
