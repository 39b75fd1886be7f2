import Console7800.Board
import Console7800.Controls
import Console7800.Proofs.Access
import Mathlib.Logic.Relation

/-!
# What can happen to a bus

`Change` lists what one access, the scheduler or the controls can do to a bus. `Evolves` is any
number of changes: a read, a write and so every program of the processor is one.
-/

namespace Console7800

/-- What can happen to the pins and the timer. -/
inductive Riot.Event where
  | read (address : UInt16)
  | write (address : UInt16) (value : UInt8)
  | advance (cycles : Nat)
  /-- Levels are driven onto the pins. -/
  | drive (first second : UInt8)

def Riot.after (riot : Riot) : Riot.Event → Riot
  | .read address => (riot.read address).2
  | .write address value => riot.write address value
  | .advance cycles => riot.advance cycles
  | .drive first second =>
    { riot with
      pinsA := { riot.pinsA with external := first }
      pinsB := { riot.pinsB with external := second } }

/-- A player's buttons are seen nowhere but in the player's latches. -/
theorem Controls.read_applyButtons_of_ne (controls : Controls) (stick : Joystick)
    (latches : ButtonLatches) (gunLatch : Bool) (pins : Pins) (memory : Memory)
    {address : UInt16} (hleft : latches.left ≠ address) (hright : latches.right ≠ address)
    (hsingle : latches.single ≠ address) :
    (controls.applyButtons stick latches gunLatch pins memory).read address =
      memory.read address := by
  unfold applyButtons
  split
  dsimp only
  split
  · simp only [Memory.read_poke, if_neg hleft, if_neg hright, if_neg hsingle]
  · split <;> simp only [Memory.read_poke, if_neg hleft, if_neg hright, if_neg hsingle]

namespace SystemBus

variable {σ : Type}

/-- What one access, the scheduler or the controls can do to a bus. -/
inductive Change : SystemBus σ → SystemBus σ → Prop where
  | tia {bus : SystemBus σ} (f : σ → σ) : Change bus { bus with tia := f bus.tia }
  | pokey {bus : SystemBus σ} (f : σ → σ) : Change bus { bus with pokey := f bus.pokey }
  /-- A register below the RAM shows a new value. -/
  | latch {bus : SystemBus σ} {address : UInt16} (value : UInt8) (h : address < 0x0040) :
    Change bus (bus.mapMemory (·.poke address value))
  | store {bus : SystemBus σ} {address : UInt16} (value : UInt8)
    (h : bus.memory.isRom address = false) : Change bus (bus.mapMemory (·.store address value))
  | riot {bus : SystemBus σ} (event : Riot.Event) : Change bus (bus.mapRiot (·.after event))
  | moduleRam {bus : SystemBus σ} (offset : Fin 131072) (value : UInt8) :
    Change bus (bus.mapModule (·.writeRam offset value))
  | moduleControl {bus : SystemBus σ} (value : UInt8) :
    Change bus (bus.mapModule ({ · with control := value }))
  | romWrite {bus : SystemBus σ} {address : UInt16} (value : UInt8)
    (h : bus.memory.isRom address = true) : Change bus (bus.romWrite address value)
  | installCartridge {bus : SystemBus σ} : Change bus bus.installCartridge
  | installBoot {bus : SystemBus σ} : Change bus bus.installBoot

/-- Any number of changes. -/
abbrev Evolves : SystemBus σ → SystemBus σ → Prop := Relation.ReflTransGen Change

theorem Evolves.keeps {P : SystemBus σ → Prop}
    (hP : ∀ {bus after : SystemBus σ}, Change bus after → P bus → P after)
    {bus after : SystemBus σ} (h : Evolves bus after) (hbus : P bus) : P after := by
  induction h with
  | refl => exact hbus
  | tail _ hstep ih => exact hP hstep ih

/-- A bus on which something has happened, and `undo` has not since. -/
inductive Since (start : SystemBus σ → Prop) (undo : SystemBus σ → SystemBus σ) :
    SystemBus σ → Prop where
  | start {bus : SystemBus σ} (h : start bus) : Since start undo bus
  | step {bus after : SystemBus σ} (h : Since start undo bus) (hstep : Change bus after)
    (hother : after ≠ undo bus) : Since start undo after

theorem Since.keeps {start P : SystemBus σ → Prop} {undo : SystemBus σ → SystemBus σ}
    (hstart : ∀ {bus : SystemBus σ}, start bus → P bus)
    (hP : ∀ {bus after : SystemBus σ}, Change bus after → after ≠ undo bus → P bus → P after)
    {bus : SystemBus σ} (h : Since start undo bus) : P bus := by
  induction h with
  | start h => exact hstart h
  | step _ hstep hother ih => exact hP hstep hother ih

theorem evolves_mapPokey (bus : SystemBus σ) (f : σ → σ) : Evolves bus (bus.mapPokey f) :=
  .single (.pokey f)

theorem evolves_mapTia (bus : SystemBus σ) (f : σ → σ) : Evolves bus (bus.mapTia f) :=
  .single (.tia f)

theorem evolves_poke (bus : SystemBus σ) {address : UInt16} (value : UInt8)
    (h : address < 0x0040) : Evolves bus (bus.mapMemory (·.poke address value)) :=
  .single (.latch value h)

theorem evolves_advance (bus : SystemBus σ) (cycles : Nat) :
    Evolves bus (bus.mapRiot (·.advance cycles)) :=
  .single (.riot (.advance cycles))

theorem evolves_strobe (bus : SystemBus σ) (gun : Lightgun) (line cycles : Nat) :
    Evolves bus (bus.mapMemory (gun.strobe line cycles)) :=
  evolves_poke bus _ (by decide)

theorem evolves_takeWait (bus : SystemBus σ) : Evolves bus bus.takeWait.2 := by
  unfold takeWait
  split
  · exact .refl
  · exact evolves_poke bus _ (by decide)

/-! ## Controls -/

/-- The bus with the controls on its pins and in its button latches. -/
def driven (bus : SystemBus σ) (controls : Controls) : SystemBus σ :=
  { bus with
    riot := (controls.apply bus.riot bus.memory).1
    memory := (controls.apply bus.riot bus.memory).2 }

theorem evolves_applyButtons (bus : SystemBus σ) (controls : Controls) (stick : Joystick)
    (latches : Controls.ButtonLatches) (gunLatch : Bool) (pins : Pins)
    (hleft : latches.left < 0x0040) (hright : latches.right < 0x0040)
    (hsingle : latches.single < 0x0040) :
    Evolves bus (bus.mapMemory (controls.applyButtons stick latches gunLatch pins)) := by
  have htwo : ∀ left right : UInt8, Evolves bus (bus.mapMemory fun memory =>
      (memory.poke latches.left left).poke latches.right right) := fun left right =>
    (bus.evolves_poke left hleft).trans (evolves_poke _ right hright)
  unfold Controls.applyButtons
  split
  dsimp only
  split
  · exact (htwo _ _).trans (evolves_poke _ _ hsingle)
  · split
    · exact htwo _ _
    · exact (htwo _ _).trans (evolves_poke _ _ hsingle)

theorem evolves_driven (bus : SystemBus σ) (controls : Controls) :
    Evolves bus (bus.driven controls) :=
  (bus.evolves_applyButtons controls controls.first Controls.firstLatches controls.lightgun
      bus.riot.pinsB (by decide) (by decide) (by decide)).trans
    ((evolves_applyButtons _ controls controls.second Controls.secondLatches false bus.riot.pinsB
      (by decide) (by decide) (by decide)).trans
    (.single (.riot (.drive controls.stickLevels controls.switchLevels))))

/-! ## Reads and writes -/

section

variable [SoundChip σ]

theorem evolves_readPokey (bus : SystemBus σ) (register : UInt8) :
    Evolves bus (bus.readPokey register).2 :=
  bus.evolves_mapPokey fun chip => (SoundChip.read chip register).2

theorem evolves_read (bus : SystemBus σ) (address : UInt16) : Evolves bus (bus.read address).2 := by
  unfold read
  split
  · exact bus.evolves_readPokey _
  · exact .refl
  · unfold readConsole
    split
    · exact bus.evolves_readPokey _
    · split
      · exact .single (.riot (.read address))
      · exact .refl

theorem evolves_writeRegister (bus : SystemBus σ) {address : UInt16} (value : UInt8)
    (h : bus.memory.isRom address = false) : Evolves bus (bus.writeRegister address value) := by
  unfold writeRegister
  split
  · exact bus.evolves_poke _ (by decide)
  · split
    · split
      · exact .single .installCartridge
      · split
        · exact .single .installBoot
        · exact .refl
    · split
      · exact .refl
      · split
        · rename_i hsound
          have hlow : address < 0x0040 := UInt16.lt_of_le_of_lt hsound.2 (by decide)
          exact .trans (bus.evolves_mapTia _) (evolves_poke _ value hlow)
        · split
          · exact .single (.riot (.write address value))
          · exact .single (.store value h)

theorem evolves_write (bus : SystemBus σ) (address : UInt16) (value : UInt8) :
    Evolves bus (bus.write address value) := by
  unfold write
  split
  · exact bus.evolves_mapPokey _
  · exact .single (.moduleRam _ value)
  · exact .single (.moduleControl value)
  · unfold writeConsole
    split
    · exact bus.evolves_mapPokey _
    · cases hrom : bus.memory.isRom address with
      | false => exact bus.evolves_writeRegister value hrom
      | true => exact .single (.romWrite value hrom)

/-- Whatever a program of the processor does to the bus is made of changes. -/
theorem evolves_run {α : Type} (program : Access α) (bus : SystemBus σ) :
    Evolves bus (program.run bus).2 :=
  Access.run_related (fun _ => .refl) (fun h₁ h₂ => h₁.trans h₂) evolves_read evolves_write
    program bus

end

end SystemBus
end Console7800
