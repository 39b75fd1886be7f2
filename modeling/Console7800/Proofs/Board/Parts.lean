import Console7800.Board
import Console7800.Proofs.Cpu.Cost

/-!
# What the parts of a line leave alone

Which of the board's parts each action changes: most touch only the bus, and only instructions, the
display's charge and the two ends of a line move the counter.
-/

namespace Console7800.Board

variable {μ σ : Type} (board : Board μ σ)

@[simp] theorem cpu_mapBus (f : SystemBus σ → SystemBus σ) : (board.mapBus f).cpu = board.cpu := rfl

@[simp] theorem bus_mapBus (f : SystemBus σ → SystemBus σ) :
    (board.mapBus f).bus = f board.bus := rfl

@[simp] theorem scheduler_mapBus (f : SystemBus σ → SystemBus σ) :
    (board.mapBus f).scheduler = board.scheduler := rfl

@[simp] theorem cpu_mapScheduler (f : Scheduler → Scheduler) :
    (board.mapScheduler f).cpu = board.cpu := rfl

@[simp] theorem bus_mapScheduler (f : Scheduler → Scheduler) :
    (board.mapScheduler f).bus = board.bus := rfl

@[simp] theorem scheduler_mapScheduler (f : Scheduler → Scheduler) :
    (board.mapScheduler f).scheduler = f board.scheduler := rfl

@[simp] theorem scheduler_mapMemory (f : Memory → Memory) :
    (board.mapMemory f).scheduler = board.scheduler := rfl

@[simp] theorem cpu_advanceTimer (cycles : Nat) : (board.advanceTimer cycles).cpu = board.cpu := rfl

@[simp] theorem scheduler_advanceTimer (cycles : Nat) :
    (board.advanceTimer cycles).scheduler = board.scheduler := rfl

@[simp] theorem cpu_strobe (gun : Option Lightgun) : (board.strobe gun).cpu = board.cpu := by
  cases gun <;> rfl

@[simp] theorem scheduler_strobe (gun : Option Lightgun) :
    (board.strobe gun).scheduler = board.scheduler := by
  cases gun <;> rfl

/-- The light gun and the timer do not meet: which of them is served first makes no difference. -/
theorem strobe_advanceTimer (gun : Option Lightgun) (cycles : Nat) :
    (board.advanceTimer cycles).strobe gun = (board.strobe gun).advanceTimer cycles := by
  cases gun <;> rfl

/-! ## Waiting -/

/-- Taking a wait touches the bus and the count of halts, and nothing else. -/
theorem exists_takeWait : ∃ (bus : SystemBus σ) (stats : FrameStats),
    board.takeWait.2 =
      { board with bus := bus, scheduler := { board.scheduler with stats := stats } } := by
  unfold takeWait
  split
  split
  · split <;> exact ⟨_, _, rfl⟩
  · exact ⟨_, _, rfl⟩

@[simp] theorem cpu_takeWait : board.takeWait.2.cpu = board.cpu := by
  obtain ⟨bus, stats, h⟩ := board.exists_takeWait
  rw [h]

@[simp] theorem cycles_takeWait :
    board.takeWait.2.scheduler.cycles = board.scheduler.cycles := by
  obtain ⟨bus, stats, h⟩ := board.exists_takeWait
  rw [h]

@[simp] theorem timing_takeWait :
    board.takeWait.2.scheduler.timing = board.scheduler.timing := by
  obtain ⟨bus, stats, h⟩ := board.exists_takeWait
  rw [h]

/-! ## Lines -/

/-- What the start of a line makes of a bus, which is told of the first and last line. -/
def markLine (region : Region) (line : Nat) (bus : SystemBus σ) : SystemBus σ :=
  if line = region.displayArea.top then bus.mapMemory (·.poke displayStatus 0)
  else if line = region.displayArea.bottom then bus.mapMemory (·.poke displayStatus blankStatus)
  else bus

theorem beginLine_eq (line : Nat) (h : board.scheduler.timing.cycleStealing = false) :
    board.beginLine line =
      { board with
        bus := markLine board.scheduler.timing.region line board.bus
        scheduler :=
          { board.scheduler with
            scanline := line
            cycles := board.scheduler.cycles % lineCycles
            extraCycles := 0 } } := by
  unfold beginLine markLine
  by_cases htop : line = board.scheduler.timing.region.displayArea.top
  · simp only [htop, if_true, scheduler_mapMemory, h, Bool.false_and]
    rfl
  by_cases hbottom : line = board.scheduler.timing.region.displayArea.bottom
  · simp only [if_neg htop, if_pos hbottom, scheduler_mapMemory, h, Bool.false_and]
    rfl
  · simp only [if_neg htop, if_neg hbottom, h, Bool.false_and]
    rfl

@[simp] theorem timing_beginLine (line : Nat) :
    (board.beginLine line).scheduler.timing = board.scheduler.timing := by
  unfold beginLine
  simp only [scheduler_mapScheduler]
  repeat' split
  all_goals rfl

/-- Where nothing is stolen, the counter keeps what it held past the last line. -/
theorem cycles_beginLine (line : Nat) (h : board.scheduler.timing.cycleStealing = false) :
    (board.beginLine line).scheduler.cycles = board.scheduler.cycles % lineCycles := by
  rw [board.beginLine_eq line h]

/-! ## The display's charge and the halt -/

theorem cycles_chargeDisplay (cycles : Nat) :
    (board.chargeDisplay cycles).scheduler.cycles =
      board.scheduler.cycles + if board.scheduler.timing.cycleStealing then cycles else 0 := by
  unfold chargeDisplay
  split <;> rfl

@[simp] theorem timing_chargeDisplay (cycles : Nat) :
    (board.chargeDisplay cycles).scheduler.timing = board.scheduler.timing := by
  unfold chargeDisplay
  split <;> rfl

theorem cycles_halt :
    board.halt.scheduler.cycles = max lineCycles board.scheduler.cycles := by
  unfold halt
  split
  · simp only [scheduler_mapScheduler]
    omega
  · omega

@[simp] theorem timing_halt : board.halt.scheduler.timing = board.scheduler.timing := by
  unfold halt
  split <;> rfl

@[simp] theorem cycles_endFrame : board.endFrame.scheduler.cycles = board.scheduler.cycles := rfl

@[simp] theorem timing_endFrame : board.endFrame.scheduler.timing = board.scheduler.timing := rfl

section

variable [SoundChip σ]

theorem scheduler_beginFrame (pokey : Bool) :
    (board.beginFrame pokey).scheduler = { board.scheduler with stats := {} } := by
  unfold beginFrame
  split <;> rfl

/-! ## Instructions -/

theorem cycles_step :
    board.step.2.scheduler.cycles =
      board.scheduler.cycles + Cpu.charge board.step.1 board.step.2.cpu.halfCycle :=
  Nat.add_assoc _ _ _

@[simp] theorem timing_step : board.step.2.scheduler.timing = board.scheduler.timing := rfl

theorem cycles_stepWatched (gun : Option Lightgun) :
    (board.stepWatched gun).2.scheduler.cycles =
      board.scheduler.cycles + Cpu.charge board.step.1 board.step.2.cpu.halfCycle := by
  rw [← cycles_step]
  simp [stepWatched]

@[simp] theorem timing_stepWatched (gun : Option Lightgun) :
    (board.stepWatched gun).2.scheduler.timing = board.scheduler.timing := by
  simp [stepWatched]

@[simp] theorem cpu_stepWatched (gun : Option Lightgun) :
    (board.stepWatched gun).2.cpu = board.step.2.cpu := by
  simp [stepWatched]

@[simp] theorem timing_runFor (gun : Option Lightgun) (limit fuel : Nat) :
    (runFor gun limit fuel board).2.scheduler.timing = board.scheduler.timing := by
  induction fuel generalizing board with
  | zero => rfl
  | succ fuel ih =>
    have hstep := timing_stepWatched board gun
    unfold runFor
    split
    · split
      · rename_i ht
        rw [← hstep, ht]
      · rename_i ht
        rw [ih, ← hstep, ht]
    · rfl

@[simp] theorem timing_runTo (gun : Option Lightgun) (limit : Nat) :
    (board.runTo gun limit).2.scheduler.timing = board.scheduler.timing :=
  timing_runFor board gun limit _

@[simp] theorem cycles_interrupt : board.interrupt.scheduler.cycles = board.scheduler.cycles := rfl

@[simp] theorem timing_interrupt : board.interrupt.scheduler.timing = board.scheduler.timing := rfl

@[simp] theorem scheduler_clockSound (pokey : Bool) :
    (board.clockSound pokey).scheduler = board.scheduler := rfl

/-- What the first loop of a line ends with. -/
def firstHalf (line : Nat) (gun : Option Lightgun) : Bool × Board μ σ :=
  ((board.beginLine line).strobe gun).runTo gun board.scheduler.timing.hblank

@[simp] theorem timing_firstHalf (line : Nat) (gun : Option Lightgun) :
    (board.firstHalf line gun).2.scheduler.timing = board.scheduler.timing := by
  simp [firstHalf]

/-- How a line is left. -/
def closeLine (second : Bool × Board μ σ) (gun : Option Lightgun) (pokey : Bool) : Board μ σ :=
  ((if second.1 then second.2.halt else second.2).strobe gun).clockSound pokey

theorem cycles_closeLine (second : Bool × Board μ σ) (gun : Option Lightgun) (pokey : Bool) :
    (closeLine second gun pokey).scheduler.cycles =
      if second.1 then max lineCycles second.2.scheduler.cycles
      else second.2.scheduler.cycles := by
  unfold closeLine
  split <;> simp [cycles_halt]

@[simp] theorem timing_closeLine (second : Bool × Board μ σ) (gun : Option Lightgun)
    (pokey : Bool) :
    (closeLine second gun pokey).scheduler.timing = second.2.scheduler.timing := by
  unfold closeLine
  split <;> simp

variable [DisplayChip μ]

theorem cycles_drawLine (line : Nat) :
    (board.drawLine line).scheduler.cycles = board.scheduler.cycles +
      if board.scheduler.timing.cycleStealing then
        (DisplayChip.render board.display line board.bus.memory).1.cycles
      else 0 := by
  unfold drawLine
  rw [cycles_chargeDisplay]
  split
  · rw [cycles_interrupt, timing_interrupt]
  · rfl

@[simp] theorem timing_drawLine (line : Nat) :
    (board.drawLine line).scheduler.timing = board.scheduler.timing := by
  unfold drawLine
  rw [timing_chargeDisplay]
  split
  · rw [timing_interrupt]
  · rfl

/-- What the second loop of a line ends with, or what the display leaves if a program waits. -/
def secondHalf (first : Bool × Board μ σ) (line : Nat) (gun : Option Lightgun) :
    Bool × Board μ σ :=
  if first.1 then (true, first.2.drawLine line) else (first.2.drawLine line).runTo gun lineCycles

theorem runLine_eq (line : Nat) (gun : Option Lightgun) (pokey : Bool) :
    board.runLine line gun pokey =
      closeLine (secondHalf (board.firstHalf line gun) line gun) gun pokey := by
  rcases hfirst : board.firstHalf line gun with ⟨halted, middle⟩
  rcases hsecond : secondHalf (halted, middle) line gun with ⟨waits, last⟩
  simp only [firstHalf] at hfirst
  simp only [secondHalf] at hsecond
  simp -iota only [runLine, scheduler_strobe, timing_beginLine, hfirst]
  simp only [closeLine, hsecond]

@[simp] theorem timing_secondHalf (first : Bool × Board μ σ) (line : Nat)
    (gun : Option Lightgun) :
    (secondHalf first line gun).2.scheduler.timing = first.2.scheduler.timing := by
  unfold secondHalf
  split <;> simp

@[simp] theorem timing_runLine (line : Nat) (gun : Option Lightgun) (pokey : Bool) :
    (board.runLine line gun pokey).scheduler.timing = board.scheduler.timing := by
  rw [runLine_eq, timing_closeLine, timing_secondHalf, timing_firstHalf]

@[simp] theorem timing_runLines (gun : Option Lightgun) (pokey : Bool) (count line : Nat) :
    (runLines gun pokey count line board).scheduler.timing = board.scheduler.timing := by
  induction count generalizing line board with
  | zero => rfl
  | succ count ih => rw [runLines, ih, timing_runLine]

/-- The last of several lines stands apart as well as the first. -/
theorem runLines_succ (gun : Option Lightgun) (pokey : Bool) (count line : Nat) :
    runLines gun pokey (count + 1) line board =
      (runLines gun pokey count line board).runLine (line + count) gun pokey := by
  induction count generalizing line board with
  | zero => rfl
  | succ count ih => rw [runLines, ih, Nat.add_right_comm, ← Nat.add_assoc, runLines]

end

end Console7800.Board
