import Console7800.Proofs.Cartridge.Layout
import Console7800.Proofs.SaveState.Reload

/-!
# The controllers after a reload

A state holds the directions of the pins and not what is latched on them, so every latch comes back
low. A program that drives none of its output pins high sees its controllers as before; which pins
matter to which port is in `ports_reload`.
-/

namespace Console7800

/-- The output pins that the program drives high. -/
def Pins.drivenHigh (pins : Pins) : UInt8 := pins.latch &&& pins.direction

/-- Where a program sees the joysticks. -/
def stickPort : UInt16 := 0x0280

/-- Where it sees the console switches. -/
def switchPort : UInt16 := 0x0282

/-- Where it sees the buttons. -/
def buttonPorts : List UInt16 := [0x0008, 0x0009, 0x000A, 0x000B, 0x000C, 0x000D]

/-! ## Pins -/

namespace Pins

theorem or_masked_eq_iff (high level mask : UInt8) :
    (high &&& mask ||| level &&& ~~~mask) = level &&& ~~~mask ↔ high &&& mask = 0 := by
  constructor
  · intro h
    have hmask : (high &&& mask ||| level &&& ~~~mask) &&& mask = high &&& mask := by
      apply UInt8.eq_of_toBitVec_eq
      ext i
      simp
      grind
    have hout : (level &&& ~~~mask) &&& mask = 0 := by
      apply UInt8.eq_of_toBitVec_eq
      ext i
      simp
    rw [← hmask, h, hout]
  · intro h
    rw [h]
    simp

/-- With its latch low, a group of pins shows the same levels if no output was driven high. -/
theorem level_unlatched_eq_iff (pins : Pins) :
    { pins with latch := 0 }.level = pins.level ↔ pins.drivenHigh = 0 := by
  rw [drivenHigh, ← or_masked_eq_iff pins.latch pins.external pins.direction, eq_comm]
  simp [level]

end Pins

/-! ## Button latches -/

namespace Controls

open Memory (read_poke)

/-- A select line is one of the eight pins. -/
def ButtonLatches.OnePin (latches : ButtonLatches) : Prop :=
  ∃ i < 8, latches.selectLine.toBitVec = BitVec.twoPow 8 i

theorem onePin_firstLatches : firstLatches.OnePin := ⟨2, by decide, by decide⟩

theorem onePin_secondLatches : secondLatches.OnePin := ⟨4, by decide, by decide⟩

theorem ButtonLatches.OnePin.masked {latches : ButtonLatches} (h : latches.OnePin) (x : UInt8) :
    x &&& latches.selectLine = 0 ∨ x &&& latches.selectLine = latches.selectLine := by
  obtain ⟨i, -, hi⟩ := h
  cases hbit : x.toBitVec.getLsbD i
  · exact .inl (UInt8.eq_of_toBitVec_eq (by simp [hi, BitVec.and_twoPow, hbit]))
  · exact .inr (UInt8.eq_of_toBitVec_eq (by simp [hi, BitVec.and_twoPow, hbit]))

/-- With every latch low, a player has as many buttons as before if the select line was not driven
high. -/
theorem separated_unlatched_eq_iff {latches : ButtonLatches} (h : latches.OnePin) (pins : Pins) :
    latches.separated { pins with latch := 0 } = latches.separated pins ↔
      pins.drivenHigh &&& latches.selectLine = 0 := by
  have hand : pins.drivenHigh &&& latches.selectLine =
      (pins.latch &&& latches.selectLine) &&& (pins.direction &&& latches.selectLine) := by
    apply UInt8.eq_of_toBitVec_eq
    ext i
    simp [Pins.drivenHigh]
    grind
  rw [hand]
  unfold ButtonLatches.separated
  rcases h.masked pins.direction with hdirection | hdirection
  · simp [hdirection]
  · rcases h.masked pins.latch with hlatch | hlatch
    · simp [hdirection, hlatch]
    · simp only [hdirection, hlatch]
      by_cases hline : latches.selectLine = 0 <;> simp [hline]

variable (controls : Controls) (stick : Joystick) (latches : ButtonLatches) (gunLatch : Bool)

/-- The button latches depend on the pins by the number of buttons only. -/
theorem read_applyButtons_congr {pins pins' : Pins} {memory memory' : Memory} {address : UInt16}
    (hpins : latches.separated pins = latches.separated pins')
    (hmemory : memory.read address = memory'.read address) :
    (controls.applyButtons stick latches gunLatch pins memory).read address =
      (controls.applyButtons stick latches gunLatch pins' memory').read address := by
  unfold applyButtons
  split
  simp only [hpins]
  split
  · simp only [read_poke, hmemory]
  · split <;> simp only [read_poke, hmemory]

theorem read_applyButtons_left (pins : Pins) (memory : Memory)
    (hswap : controls.swapButtons = false) (hfire : stick.leftFire = true)
    (hright : latches.right ≠ latches.left) (hsingle : latches.single ≠ latches.left) :
    (controls.applyButtons stick latches gunLatch pins memory).read latches.left =
      if latches.separated pins then 0x80 else 0 := by
  simp only [applyButtons, hswap, hfire, Bool.false_eq_true, if_false]
  cases latches.separated pins with
  | true => simp [read_poke, hright, hsingle]
  | false => cases gunLatch <;> simp [read_poke, hright, hsingle]

end Controls

/-! ## What a program reads -/

namespace SystemBus

variable {σ : Type} [SoundChip σ]

/-- Whatever the controls, both buses show the same at a port. -/
def SameAt (first second : SystemBus σ) (port : UInt16) : Prop :=
  ∀ controls : Controls,
    ((first.driven controls).read port).1 = ((second.driven controls).read port).1

theorem low_of_mem_buttonPorts {port : UInt16} (h : port ∈ buttonPorts) :
    port < 0x0040 ∧ isRiot port = false := by
  simp only [buttonPorts, List.mem_cons, List.not_mem_nil, or_false] at h
  rcases h with rfl | rfl | rfl | rfl | rfl | rfl <;> decide

/-- The buttons that tell one-button mode from two-button mode. -/
def leftFires : Controls := { first := { leftFire := true }, second := { leftFire := true } }

theorem read_leftFires_first (bus : SystemBus σ) :
    ((bus.driven leftFires).read Controls.firstLatches.left).1 =
      if Controls.firstLatches.separated bus.riot.pinsB then 0x80 else 0 := by
  rw [read_low _ (by decide)]
  exact (Controls.read_applyButtons_of_ne _ _ _ _ _ _ (by decide) (by decide) (by decide)).trans
    (Controls.read_applyButtons_left _ _ _ _ _ _ rfl rfl (by decide) (by decide))

theorem read_leftFires_second (bus : SystemBus σ) :
    ((bus.driven leftFires).read Controls.secondLatches.left).1 =
      if Controls.secondLatches.separated bus.riot.pinsB then 0x80 else 0 := by
  rw [read_low _ (by decide)]
  exact Controls.read_applyButtons_left _ _ _ _ _ _ rfl rfl (by decide) (by decide)

/-- What the ports show of a bus depends on its pins and on console RAM. The second bus has both of
the first, but every latch is low. -/
structure Unlatched (before after : SystemBus σ) : Prop where
  pinsA : after.riot.pinsA = { before.riot.pinsA with
    latch := 0, external := after.riot.pinsA.external }
  pinsB : after.riot.pinsB = { before.riot.pinsB with
    latch := 0, external := after.riot.pinsB.external }
  memory : ∀ address : UInt16, address.toNat < cartridgeStart →
    after.memory.read address = before.memory.read address

namespace Unlatched

variable {before after : SystemBus σ}

theorem sameAt_iff {port : UInt16} (pins : SystemBus σ → Pins) (levels : Controls → UInt8)
    (hshown : ∀ (bus : SystemBus σ) (controls : Controls), ((bus.driven controls).read port).1 =
      { pins bus with external := levels controls }.level)
    (hpins : pins after = { pins before with latch := 0, external := (pins after).external }) :
    SameAt after before port ↔ (pins before).drivenHigh = 0 := by
  have hlevel (controls : Controls) : ((after.driven controls).read port).1 =
      ((before.driven controls).read port).1 ↔ (pins before).drivenHigh = 0 := by
    rw [hshown, hshown, hpins]
    exact Pins.level_unlatched_eq_iff { pins before with external := levels controls }
  exact ⟨fun hsame => (hlevel {}).1 (hsame {}), fun hlow controls => (hlevel controls).2 hlow⟩

theorem sameAt_stickPort_iff (h : Unlatched before after) :
    SameAt after before stickPort ↔ before.riot.pinsA.drivenHigh = 0 :=
  sameAt_iff (·.riot.pinsA) Controls.stickLevels (fun _ _ => read_low _ (by decide)) h.pinsA

theorem sameAt_switchPort_iff (h : Unlatched before after) :
    SameAt after before switchPort ↔ before.riot.pinsB.drivenHigh = 0 :=
  sameAt_iff (·.riot.pinsB) Controls.switchLevels (fun _ _ => read_low _ (by decide)) h.pinsB

theorem sameAt_buttonPorts_iff (h : Unlatched before after) :
    (∀ port ∈ buttonPorts, SameAt after before port) ↔
      before.riot.pinsB.drivenHigh &&& Controls.firstLatches.selectLine = 0 ∧
        before.riot.pinsB.drivenHigh &&& Controls.secondLatches.selectLine = 0 := by
  have hfirst := Controls.separated_unlatched_eq_iff Controls.onePin_firstLatches
    before.riot.pinsB
  have hsecond := Controls.separated_unlatched_eq_iff Controls.onePin_secondLatches
    before.riot.pinsB
  have hpins (latches : Controls.ButtonLatches) : latches.separated after.riot.pinsB =
      latches.separated { before.riot.pinsB with latch := 0 } := by
    rw [h.pinsB]
    rfl
  constructor
  · intro hsame
    have hleft := hsame Controls.firstLatches.left (by decide) leftFires
    have hright := hsame Controls.secondLatches.left (by decide) leftFires
    rw [read_leftFires_first, read_leftFires_first, hpins] at hleft
    rw [read_leftFires_second, read_leftFires_second, hpins] at hright
    have hmode : ∀ one two : Bool,
        (if one then (0x80 : UInt8) else 0) = (if two then 0x80 else 0) → one = two := by decide
    exact ⟨hfirst.1 (hmode _ _ hleft), hsecond.1 (hmode _ _ hright)⟩
  · rintro ⟨hleft, hright⟩ port hport controls
    obtain ⟨hlow, hriot⟩ := low_of_mem_buttonPorts hport
    have hconsole := UInt16.lt_trans hlow (by decide : (0x0040 : UInt16) < 0x0450)
    simp only [read_low _ hconsole, hriot, Bool.false_eq_true, if_false]
    refine Controls.read_applyButtons_congr _ _ _ _ ((hpins _).trans (hsecond.2 hright)) ?_
    refine Controls.read_applyButtons_congr _ _ _ _ ((hpins _).trans (hfirst.2 hleft)) ?_
    exact h.memory port (Nat.lt_trans (UInt16.lt_iff_toNat_lt.1 hlow) (by decide))

end Unlatched

end SystemBus

/-! ## A reload -/

namespace Console

variable {μ σ : Type} [SoundChip σ] [DisplayChip μ] {boots : Option BootRom → Prop}
  {console : Console μ σ} {cartridge : Cartridge}

theorem unlatched_reloaded (h : Attainable boots console) (cartridge : Cartridge) :
    SystemBus.Unlatched console.board.bus (console.reloaded cartridge).board.bus := by
  obtain ⟨memory, hstart, -⟩ := h.sameButRam_startBus true
  have hriot : (console.reloaded cartridge).board.bus.riot =
      console.board.bus.riot.reset.restore console.board.bus.riot.snapshot := by
    rw [bus_reloaded_eq, hstart, powerOnBus_eq]
    rfl
  rw [Riot.restore_snapshot _ h.coherent.prescaler_ne] at hriot
  refine ⟨?_, ?_, fun address hlow => ?_⟩
  · rw [hriot]
    rfl
  · rw [hriot]
    rfl
  · rw [bus_reloaded_eq]
    exact (SaveState.read_onMemory_savedParts ..).trans (if_pos (.inl hlow))

/-- What a console shows at its controller ports once its own state has been loaded: the sticks and
the switches are as before, whatever the controls, if none of their pins was driven high, and the
buttons are if neither select line was. -/
theorem ports_reload (h : Attainable boots console) (hmounted : console.cartridge?.isSome) :
    ∃ after, console.loadState console.saveState = (.ok (), after) ∧
      (after.board.bus.SameAt console.board.bus stickPort ↔
        console.board.bus.riot.pinsA.drivenHigh = 0) ∧
      (after.board.bus.SameAt console.board.bus switchPort ↔
        console.board.bus.riot.pinsB.drivenHigh = 0) ∧
      ((∀ port ∈ buttonPorts, after.board.bus.SameAt console.board.bus port) ↔
        console.board.bus.riot.pinsB.drivenHigh &&& Controls.firstLatches.selectLine = 0 ∧
          console.board.bus.riot.pinsB.drivenHigh &&& Controls.secondLatches.selectLine = 0) := by
  obtain ⟨cartridge, hc⟩ := Option.isSome_iff_exists.1 hmounted
  have hreload := unlatched_reloaded h cartridge
  exact ⟨_, loadState_own h.coherent hc, hreload.sameAt_stickPort_iff,
    hreload.sameAt_switchPort_iff, hreload.sameAt_buttonPorts_iff⟩

theorem ports_reload_blankConsole :
    blankConsole.cartridge?.isSome ∧
      ∃ after, blankConsole.loadState blankConsole.saveState = (.ok (), after) ∧
        after.board.bus.SameAt blankConsole.board.bus stickPort ∧
        after.board.bus.SameAt blankConsole.board.bus switchPort ∧
        ∀ port ∈ buttonPorts, after.board.bus.SameAt blankConsole.board.bus port := by
  have hmounted : blankConsole.cartridge?.isSome := by
    rw [cartridge?_blankConsole]
    rfl
  have hriot : blankConsole.board.bus.riot = {} := by
    rw [bus_blankConsole, riot_powerOnBus]
    rfl
  obtain ⟨after, hload, hstick, hswitch, hbuttons⟩ :=
    ports_reload reachable_blankConsole.attainable hmounted
  rw [hriot] at hstick hswitch hbuttons
  exact ⟨hmounted, after, hload, hstick.2 rfl, hswitch.2 rfl, hbuttons.2 ⟨rfl, rfl⟩⟩

/-! ## One button -/

/-- The blank console once a program has driven the first player's select line high. -/
def oneButtonConsole : Console IdleDisplay SilentSound :=
  (blankConsole.perform (.write 0x0283 0x04)).perform (.write 0x0282 0x04)

theorem attainable_oneButtonConsole : Attainable (fun _ => True) oneButtonConsole := by
  refine Attainable.act (.act reachable_blankConsole.attainable ?_) ?_ <;> trivial

theorem isRom_blankConsole {address : UInt16} (h : address.toNat < cartridgeStart) :
    blankConsole.board.bus.memory.isRom address = false := by
  have hsize : blankFile.size ≤ 0xC000 := by
    rw [size_blankFile]
    decide
  rw [bus_blankConsole, SystemBus.memory_powerOnBus_of_no_boot rfl rfl,
    Cartridge.isRom_install_normal rfl (Nat.le_trans hsize (by decide)), if_neg,
    Memory.isRom_powerOn, decide_eq_false (Nat.not_le.2 h)]
  exact fun hin => absurd (Cartridge.above_of_flat hsize hin) (Nat.not_le.2 h)

theorem bus_drive_line {console : Console μ σ} (hriot : console.board.bus.riot = {})
    (hrom : ∀ address : UInt16, address.toNat < cartridgeStart →
      console.board.bus.memory.isRom address = false) (line : UInt8) :
    ((console.perform (.write 0x0283 line)).perform (.write 0x0282 line)).board.bus =
      { console.board.bus with riot := { pinsB := { latch := line, direction := line } } } := by
  have hdirection : console.board.bus.write 0x0283 line =
      { console.board.bus with riot := { pinsB := { direction := line } } } := by
    rw [SystemBus.write_riot _ (by decide) (hrom _ (by decide)), SystemBus.mapRiot, hriot]
    rfl
  change (console.board.bus.write 0x0283 line).write 0x0282 line = _
  rw [hdirection, SystemBus.write_riot _ (by decide) (by exact hrom _ (by decide))]
  rfl

/-- With the select line driven high the player has one button, and two after a reload. -/
theorem two_buttons_after_reload :
    Attainable (fun _ => True) oneButtonConsole ∧ oneButtonConsole.cartridge?.isSome ∧
      ∃ after, oneButtonConsole.loadState oneButtonConsole.saveState = (.ok (), after) ∧
        ((oneButtonConsole.board.bus.driven SystemBus.leftFires).read 0x0009).1 = 0 ∧
        ((after.board.bus.driven SystemBus.leftFires).read 0x0009).1 = 0x80 := by
  have hriot : blankConsole.board.bus.riot = {} := by
    rw [bus_blankConsole, riot_powerOnBus]
    rfl
  have hbus := bus_drive_line hriot (fun _ => isRom_blankConsole) 0x04
  rw [← oneButtonConsole] at hbus
  have hpins : oneButtonConsole.board.bus.riot.pinsB = { latch := 0x04, direction := 0x04 } := by
    rw [hbus]
  have hc : oneButtonConsole.cartridge? = blankConsole.cartridge? := by
    rw [cartridge?, hbus, cartridge?]
  rw [cartridge?_blankConsole] at hc
  have hload := loadState_own attainable_oneButtonConsole.coherent hc
  refine ⟨attainable_oneButtonConsole, by rw [hc]; rfl, _, hload, ?_, ?_⟩
  · refine (SystemBus.read_leftFires_first _).trans ?_
    rw [hpins]
    rfl
  · refine (SystemBus.read_leftFires_first _).trans ?_
    rw [(unlatched_reloaded attainable_oneButtonConsole _).pinsB, hpins]
    rfl

end Console

end Console7800
