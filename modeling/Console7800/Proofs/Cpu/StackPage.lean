import Console7800.Cpu
import Console7800.FlatRam
import Mathlib.Logic.Function.Basic

/-!
# The stack on a bus

`Bus.StackHolds bus page`: page one of `bus` is plain RAM that holds `page`. `Bus.Live bus base s
bytes`: from the stack pointer `s` up to `base` it holds `bytes`, first the one that is pulled
first. Pushes put bytes there and pulls take them, also where the pointer wraps, as long as no more
than a page is live.
-/

namespace Console7800

/-- The address in page one at which a stack pointer points. -/
def stackAddress (s : UInt8) : UInt16 := 0x0100 + s.toUInt16

theorem toNat_stackAddress (s : UInt8) : (stackAddress s).toNat = 0x0100 + s.toNat := by
  have hs := s.toNat_lt
  simp [stackAddress]
  omega

theorem stackAddress_inj {s t : UInt8} : stackAddress s = stackAddress t ↔ s = t := by
  simp [← UInt16.toNat_inj, toNat_stackAddress, ← UInt8.toNat_inj]

/-! ## A page of bytes -/

/-- Above `s` the page holds the bytes, the last one at `base`. After the end it goes on at zero. -/
def Stacked (page : UInt8 → UInt8) (base : UInt8) : UInt8 → List UInt8 → Prop
  | s, [] => s = base
  | s, value :: bytes => page (s + 1) = value ∧ Stacked page base (s + 1) bytes

theorem toNat_succ_sub {s t : UInt8} (h : (t - s).toNat + 1 < 256) :
    (t + 1 - s).toNat = (t - s).toNat + 1 := by
  have hs := s.toNat_lt
  have ht := t.toNat_lt
  simp only [UInt8.toNat_sub, UInt8.toNat_add, UInt8.reduceToNat] at h ⊢
  omega

namespace Stacked

variable {page : UInt8 → UInt8} {base s t : UInt8} {bytes : List UInt8}

theorem update (h : Stacked page base t bytes) (hfree : (t - s).toNat + bytes.length < 256)
    (value : UInt8) : Stacked (Function.update page s value) base t bytes := by
  induction bytes generalizing t with
  | nil => exact h
  | cons byte bytes ih =>
    rw [List.length_cons] at hfree
    have hnext := toNat_succ_sub (s := s) (t := t) (by omega)
    -- The live bytes above `t` do not come round to `s`: fewer than a page are between the two.
    have hne : t + 1 ≠ s := by
      rintro rfl
      simp at hnext
    exact ⟨(Function.update_of_ne hne ..).trans h.1, ih h.2 (by omega)⟩

theorem push (h : Stacked page base s bytes) (hlength : bytes.length < 256) (value : UInt8) :
    Stacked (Function.update page s value) base (s - 1) (value :: bytes) := by
  rw [Stacked, UInt8.sub_add_cancel]
  exact ⟨Function.update_self .., h.update (by simpa using hlength) value⟩

end Stacked

/-! ## A bus with such a page -/

namespace Bus

variable {β : Type} [Bus β]

/-- On buses that `Holds` relates to a page, page one is RAM with that page in it: reads show it and
leave it alone, wherever they are, and writes change it. -/
structure RamPage (Holds : β → (UInt8 → UInt8) → Prop) : Prop where
  byte : ∀ {bus page}, Holds bus page → ∀ s, (Bus.read bus (stackAddress s)).1 = page s
  read : ∀ {bus page}, Holds bus page → ∀ address, Holds (Bus.read bus address).2 page
  write : ∀ {bus page}, Holds bus page → ∀ s value,
    Holds (Bus.write bus (stackAddress s) value) (Function.update page s value)

/-- Page one of the bus is plain RAM that holds `page`. -/
def StackHolds (bus : β) (page : UInt8 → UInt8) : Prop :=
  ∃ Holds, RamPage Holds ∧ Holds bus page

/-- All these relations taken together are one of them. -/
theorem ramPage_stackHolds : RamPage (StackHolds (β := β)) where
  byte := fun ⟨_, hpage, h⟩ s => hpage.byte h s
  read := fun ⟨Holds, hpage, h⟩ address => ⟨Holds, hpage, hpage.read h address⟩
  write := fun ⟨Holds, hpage, h⟩ s value => ⟨Holds, hpage, hpage.write h s value⟩

/-- Page one of the bus is plain RAM, and from the stack pointer `s` up to `base` it holds
`bytes`. -/
def Live (bus : β) (base s : UInt8) (bytes : List UInt8) : Prop :=
  ∃ page, StackHolds bus page ∧ Stacked page base s bytes

namespace Live

variable {bus : β} {r : Registers} {base s : UInt8} {value : UInt8} {word : UInt16}
  {bytes : List UInt8}

theorem nil {page : UInt8 → UInt8} (h : StackHolds bus page) (s : UInt8) : Live bus s s [] :=
  ⟨page, h, rfl⟩

theorem eq_base (h : Live bus base s []) : s = base := by
  obtain ⟨page, hpage, hbytes⟩ := h
  exact hbytes

theorem read (h : Live bus base s bytes) (address : UInt16) :
    Live (Bus.read bus address).2 base s bytes := by
  obtain ⟨page, hpage, hbytes⟩ := h
  exact ⟨page, ramPage_stackHolds.read hpage address, hbytes⟩

/-! ### Pushes and pulls -/

theorem push (h : Live bus base s bytes) (hlength : bytes.length < 256) (value : UInt8) :
    Live (Bus.write bus (stackAddress s) value) base (s - 1) (value :: bytes) := by
  obtain ⟨page, hpage, hbytes⟩ := h
  exact ⟨_, ramPage_stackHolds.write hpage s value, hbytes.push hlength value⟩

theorem pushWord (h : Live bus base r.s bytes) (hlength : bytes.length + 1 < 256)
    (word : UInt16) :
    Live ((r.pushWord word).run bus).2 base ((r.pushWord word).run bus).1.s
      (lowByte word :: highByte word :: bytes) :=
  (h.push (Nat.lt_of_succ_lt hlength) (highByte word)).push hlength (lowByte word)

theorem pullByte (h : Live bus base r.s (value :: bytes)) :
    ∃ after, r.pullByte.run bus = ((value, { r with s := r.s + 1 }), after) ∧
      Live after base (r.s + 1) bytes := by
  obtain ⟨page, hpage, hbytes⟩ := h
  have hvalue : (Bus.read bus (stackAddress (r.s + 1))).1 = value :=
    (ramPage_stackHolds.byte hpage _).trans hbytes.1
  have hrun : r.pullByte.run bus =
      (((Bus.read bus (stackAddress (r.s + 1))).1, { r with s := r.s + 1 }),
        (Bus.read bus (stackAddress (r.s + 1))).2) := rfl
  rw [hvalue] at hrun
  exact ⟨_, hrun, page, ramPage_stackHolds.read hpage _, hbytes.2⟩

theorem pullWord (h : Live bus base r.s (lowByte word :: highByte word :: bytes)) :
    ∃ after, r.pullWord.run bus = ((word, { r with s := r.s + 1 + 1 }), after) ∧
      Live after base (r.s + 1 + 1) bytes := by
  obtain ⟨middle, hlow, hmiddle⟩ := h.pullByte
  obtain ⟨after, hhigh, hafter⟩ := hmiddle.pullByte (r := { r with s := r.s + 1 })
  refine ⟨after, ?_, hafter⟩
  simp [Registers.pullWord, Access.run_bind, hlow, hhigh]

end Live
end Bus

/-! ## Flat RAM -/

namespace FlatRam

variable {ram : FlatRam} {page : UInt8 → UInt8}

theorem stackHolds_iff : Bus.StackHolds ram page ↔ ∀ s, ram.peek (stackAddress s) = page s := by
  constructor
  · rintro ⟨Holds, hpage, h⟩ s
    exact hpage.byte h s
  · intro h
    refine ⟨fun ram page => ∀ s, ram.peek (stackAddress s) = page s, ⟨id, fun h _ => h, ?_⟩, h⟩
    intro ram page h s value t
    simp [Bus.write, peek_poke, Function.update_apply, stackAddress_inj, h, eq_comm]

theorem stackHolds_poke (h : Bus.StackHolds ram page) {address : UInt16}
    (haddress : 0x0200 ≤ address) (value : UInt8) :
    Bus.StackHolds (ram.poke address value) page := by
  rw [stackHolds_iff] at h ⊢
  intro s
  have hne : address ≠ stackAddress s := by
    rintro rfl
    have hs := s.toNat_lt
    have hlow := UInt16.le_iff_toNat_le.1 haddress
    simp only [toNat_stackAddress, UInt16.reduceToNat] at hlow
    omega
  rw [peek_poke, if_neg hne, h]

end FlatRam
end Console7800
