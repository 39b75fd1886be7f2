import Console7800.Proofs.Board.Parts
import Console7800.Proofs.SystemBus.Change

/-!
# What a frame does to the bus

Instructions, interrupts, the light gun, the timer and the sound chips' clocks all are changes of
the bus, so a line and a frame are made of changes.
-/

namespace Console7800.Board

open SystemBus (Evolves)

variable {μ σ : Type} (board : Board μ σ)

theorem evolves_advanceTimer (cycles : Nat) : Evolves board.bus (board.advanceTimer cycles).bus :=
  board.bus.evolves_advance cycles

theorem evolves_strobe (gun : Option Lightgun) : Evolves board.bus (board.strobe gun).bus := by
  cases gun with
  | none => exact .refl
  | some gun => exact board.bus.evolves_strobe gun _ _

theorem evolves_takeWait : Evolves board.bus board.takeWait.2.bus := by
  obtain ⟨cpu, bus, display, scheduler⟩ := board
  have hwait := bus.evolves_takeWait
  unfold takeWait
  dsimp only
  split
  · rcases hbus : bus.takeWait with ⟨waits, after⟩
    rw [hbus] at hwait
    cases waits <;> exact hwait
  · exact .refl

theorem evolves_beginLine (line : Nat) : Evolves board.bus (board.beginLine line).bus := by
  unfold beginLine
  rw [bus_mapScheduler]
  split
  · exact board.bus.evolves_poke _ (by decide)
  · split
    · exact board.bus.evolves_poke _ (by decide)
    · exact .refl

theorem evolves_chargeDisplay (cycles : Nat) :
    Evolves board.bus (board.chargeDisplay cycles).bus := by
  unfold chargeDisplay
  split
  · exact evolves_advanceTimer _ _
  · exact .refl

theorem evolves_halt : Evolves board.bus board.halt.bus := by
  unfold halt
  split
  · exact evolves_advanceTimer _ _
  · exact .refl

section

variable [SoundChip σ]

theorem evolves_step : Evolves board.bus board.step.2.bus :=
  SystemBus.evolves_run board.cpu.step board.bus

theorem evolves_stepWatched (gun : Option Lightgun) :
    Evolves board.bus (board.stepWatched gun).2.bus := by
  unfold stepWatched
  rcases hstep : board.step with ⟨cycles, after⟩
  have hbus := board.evolves_step
  rw [hstep] at hbus
  exact hbus.trans ((after.evolves_advanceTimer cycles).trans
    ((evolves_strobe _ gun).trans (evolves_takeWait _)))

theorem evolves_runFor (gun : Option Lightgun) (limit fuel : Nat) :
    Evolves board.bus (runFor gun limit fuel board).2.bus := by
  induction fuel generalizing board with
  | zero => exact .refl
  | succ fuel ih =>
    have hstep := board.evolves_stepWatched gun
    unfold runFor
    split
    · rcases hturn : board.stepWatched gun with ⟨waits, after⟩
      rw [hturn] at hstep
      cases waits with
      | true => exact hstep
      | false => exact hstep.trans (ih after)
    · exact .refl

theorem evolves_runTo (gun : Option Lightgun) (limit : Nat) :
    Evolves board.bus (board.runTo gun limit).2.bus :=
  board.evolves_runFor gun limit _

theorem evolves_interrupt : Evolves board.bus board.interrupt.bus :=
  SystemBus.evolves_run board.cpu.nmi board.bus

theorem evolves_clockSound (pokey : Bool) : Evolves board.bus (board.clockSound pokey).bus := by
  have htia := board.bus.evolves_mapTia (SoundChip.process · soundClocks)
  cases pokey with
  | false => exact htia
  | true =>
    exact htia.trans (SystemBus.evolves_mapPokey _ fun chip =>
      SoundChip.scanline (SoundChip.process chip soundClocks))

theorem evolves_firstHalf (line : Nat) (gun : Option Lightgun) :
    Evolves board.bus (board.firstHalf line gun).2.bus :=
  (board.evolves_beginLine line).trans ((evolves_strobe _ gun).trans (evolves_runTo _ gun _))

theorem evolves_closeLine (second : Bool × Board μ σ) (gun : Option Lightgun) (pokey : Bool) :
    Evolves second.2.bus (closeLine second gun pokey).bus := by
  refine .trans ?_ ((evolves_strobe _ gun).trans (evolves_clockSound _ pokey))
  split
  · exact second.2.evolves_halt
  · exact .refl

theorem evolves_beginFrame (pokey : Bool) : Evolves board.bus (board.beginFrame pokey).bus := by
  cases pokey with
  | false => exact .refl
  | true => exact board.bus.evolves_mapPokey _

variable [DisplayChip μ]

theorem evolves_drawLine (line : Nat) : Evolves board.bus (board.drawLine line).bus := by
  unfold drawLine
  refine .trans ?_ (evolves_chargeDisplay _ _)
  split
  · exact evolves_interrupt _
  · exact .refl

theorem evolves_secondHalf (first : Bool × Board μ σ) (line : Nat) (gun : Option Lightgun) :
    Evolves first.2.bus (secondHalf first line gun).2.bus := by
  unfold secondHalf
  split
  · exact first.2.evolves_drawLine line
  · exact (first.2.evolves_drawLine line).trans (evolves_runTo _ gun _)

theorem evolves_runLine (line : Nat) (gun : Option Lightgun) (pokey : Bool) :
    Evolves board.bus (board.runLine line gun pokey).bus := by
  rw [runLine_eq]
  exact (board.evolves_firstHalf line gun).trans
    ((evolves_secondHalf _ line gun).trans (evolves_closeLine _ gun pokey))

theorem evolves_runLines (gun : Option Lightgun) (pokey : Bool) (count line : Nat) :
    Evolves board.bus (runLines gun pokey count line board).bus := by
  induction count generalizing line board with
  | zero => exact .refl
  | succ count ih =>
    rw [runLines]
    exact (board.evolves_runLine line gun pokey).trans (ih _ _)

theorem evolves_runFrame (gun : Lightgun) : Evolves board.bus (board.runFrame gun).bus :=
  (board.evolves_beginFrame _).trans (evolves_runLines _ _ _ _ _)

end

end Console7800.Board
