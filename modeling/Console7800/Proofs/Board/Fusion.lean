import Console7800.Proofs.Board.Progress
import Console7800.Proofs.Board.Raster

/-!
# One loop for a line

Two loops of a line with nothing in between are one loop to the second limit, wherever the first
limit falls and on whichever side of it a program waits (`runTo_runTo`). A display that steals
nothing and asks for no interrupt is nothing in between, so neither it nor the place of the
horizontal blank shows in the rest of the board (`bare_runLine`), over any number of frames
(`Alike.runFrames`).
-/

namespace Console7800

/-! ## A display that does not interrupt -/

namespace DisplayChip

variable {μ : Type} [DisplayChip μ]

/-- The chip asks for no interrupt, whatever lines it has drawn and whatever it is shown. -/
def Quiet (chip : μ) : Prop :=
  ∀ (drawn : List (Nat × Memory)) (line : Nat) (memory : Memory),
    (render (drawn.foldl (fun chip shown => (render chip shown.1 shown.2).2) chip) line
      memory).1.interrupt = false

theorem Quiet.interrupt {chip : μ} (h : Quiet chip) (line : Nat) (memory : Memory) :
    (render chip line memory).1.interrupt = false := h [] line memory

theorem Quiet.render {chip : μ} (h : Quiet chip) (line : Nat) (memory : Memory) :
    Quiet (render chip line memory).2 := fun drawn => h ((line, memory) :: drawn)

theorem quiet_of_forall
    (h : ∀ (chip : μ) line memory, (DisplayChip.render chip line memory).1.interrupt = false)
    (chip : μ) : Quiet chip := fun _ line memory => h _ line memory

theorem quiet_idle (chip : IdleDisplay) : Quiet chip := by
  refine quiet_of_forall (fun chip line memory => ?_) chip
  show (chip.render memory).1.interrupt = false
  unfold IdleDisplay.render
  split <;> rfl

end DisplayChip

namespace Board

variable {μ ν σ : Type}

/-! ## Loops to two limits -/

section

variable {turn : Board μ σ → Bool × Board μ σ} {near far : Nat} {board : Board μ σ}
  {first result : Bool × Board μ σ}

theorem Loop.extend_waits (h : Loop turn near board first) (hle : near ≤ far)
    (hw : first.1 = true) : Loop turn far board first := by
  induction h with
  | reached => contradiction
  | waits hlt ht => exact .waits (by omega) ht
  | next hlt ht _ ih => exact .next (by omega) ht (ih hw)

/-- A loop that reaches its limit can go on from there to a later one. -/
theorem Loop.extend_reached (h : Loop turn near board first) (hle : near ≤ far)
    (hw : first.1 = false) (hl : Loop turn far first.2 result) : Loop turn far board result := by
  induction h with
  | reached => exact hl
  | waits => contradiction
  | next hlt ht _ ih => exact .next (by omega) ht (ih hw hl)

end

theorem runTo_runTo [SoundChip σ] (gun : Option Lightgun) {near far : Nat} (hle : near ≤ far)
    (board : Board μ σ) :
    board.runTo gun far =
      if (board.runTo gun near).1 then board.runTo gun near
      else (board.runTo gun near).2.runTo gun far := by
  have hnear := loop_runTo gun near board
  refine (loop_runTo gun far board).unique ?_
  split
  · rename_i hw
    exact hnear.extend_waits hle hw
  · rename_i hw
    exact hnear.extend_reached hle (by simpa using hw) (loop_runTo gun far _)

/-! ## The board without its display -/

/-- What is left of a board when the display, the place of the horizontal blank, the note of what
the counter held and the count of frames are not looked at. -/
def bare (board : Board μ σ) : Board Unit σ where
  cpu := board.cpu
  bus := board.bus
  display := ()
  scheduler :=
    { board.scheduler with
      timing := { board.scheduler.timing with hblank := 0 }
      extraCycles := 0
      frame := 0 }

section

variable (board : Board μ σ)

@[simp] theorem cycles_bare : board.bare.scheduler.cycles = board.scheduler.cycles := rfl

theorem bare_advanceTimer (cycles : Nat) :
    (board.advanceTimer cycles).bare = board.bare.advanceTimer cycles := rfl

theorem bare_strobe (gun : Option Lightgun) :
    (board.strobe gun).bare = board.bare.strobe gun := by
  cases gun <;> rfl

theorem bare_takeWait :
    (board.takeWait.1, board.takeWait.2.bare) = board.bare.takeWait := by
  unfold takeWait
  dsimp only [bare]
  split
  · split <;> rfl
  · rfl

theorem bare_halt : board.halt.bare = board.bare.halt := by
  unfold halt
  rw [cycles_bare]
  split <;> rfl

theorem bare_endFrame : board.endFrame.bare = board.bare := rfl

variable [SoundChip σ]

theorem bare_stepWatched (gun : Option Lightgun) :
    ((board.stepWatched gun).1, (board.stepWatched gun).2.bare) = board.bare.stepWatched gun := by
  unfold stepWatched
  rcases hstep : board.step with ⟨cycles, after⟩
  have hbare : board.bare.step = (cycles, after.bare) := by
    have h : board.bare.step = (board.step.1, board.step.2.bare) := rfl
    rw [h, hstep]
  rw [hbare]
  dsimp only
  rw [bare_takeWait, bare_strobe, bare_advanceTimer]

theorem bare_runFor (gun : Option Lightgun) (limit fuel : Nat) :
    ((runFor gun limit fuel board).1, (runFor gun limit fuel board).2.bare) =
      runFor gun limit fuel board.bare := by
  induction fuel generalizing board with
  | zero => rfl
  | succ fuel ih =>
    have hturn := board.bare_stepWatched gun
    unfold runFor
    rw [cycles_bare]
    split
    · rcases hstep : board.stepWatched gun with ⟨waits, after⟩
      rw [hstep] at hturn
      rw [← hturn]
      cases waits with
      | true => rfl
      | false => exact ih after
    · rfl

theorem bare_runTo (gun : Option Lightgun) (limit : Nat) :
    ((board.runTo gun limit).1, (board.runTo gun limit).2.bare) = board.bare.runTo gun limit :=
  board.bare_runFor gun limit _

theorem bare_clockSound (pokey : Bool) :
    (board.clockSound pokey).bare = board.bare.clockSound pokey := rfl

theorem bare_closeLine (second : Bool × Board μ σ) (gun : Option Lightgun) (pokey : Bool) :
    (closeLine second gun pokey).bare = closeLine (second.1, second.2.bare) gun pokey := by
  unfold closeLine
  rw [bare_clockSound, bare_strobe]
  split
  · rw [bare_halt]
  · rfl

end

/-! ## What the display leaves alone -/

section

variable (board : Board μ σ)

@[simp] theorem display_mapBus (f : SystemBus σ → SystemBus σ) :
    (board.mapBus f).display = board.display := rfl

@[simp] theorem display_mapScheduler (f : Scheduler → Scheduler) :
    (board.mapScheduler f).display = board.display := rfl

@[simp] theorem display_strobe (gun : Option Lightgun) :
    (board.strobe gun).display = board.display := by
  cases gun <;> rfl

@[simp] theorem display_takeWait : board.takeWait.2.display = board.display := by
  obtain ⟨bus, stats, h⟩ := board.exists_takeWait
  rw [h]

@[simp] theorem display_halt : board.halt.display = board.display := by
  unfold halt
  split <;> rfl

variable [SoundChip σ]

@[simp] theorem display_stepWatched (gun : Option Lightgun) :
    (board.stepWatched gun).2.display = board.display := by
  simp only [stepWatched, display_takeWait, display_strobe]
  rfl

@[simp] theorem display_runFor (gun : Option Lightgun) (limit fuel : Nat) :
    (runFor gun limit fuel board).2.display = board.display := by
  induction fuel generalizing board with
  | zero => rfl
  | succ fuel ih =>
    have hturn := board.display_stepWatched gun
    unfold runFor
    split
    · rcases hstep : board.stepWatched gun with ⟨waits, after⟩
      rw [hstep] at hturn
      cases waits with
      | true => exact hturn
      | false => exact (ih after).trans hturn
    · rfl

@[simp] theorem display_runTo (gun : Option Lightgun) (limit : Nat) :
    (board.runTo gun limit).2.display = board.display :=
  display_runFor board gun limit _

@[simp] theorem display_closeLine (second : Bool × Board μ σ) (gun : Option Lightgun)
    (pokey : Bool) : (closeLine second gun pokey).display = second.2.display := by
  unfold closeLine clockSound
  split <;> simp

end

/-- The display is nothing between the two loops of a line: it steals no cycles and asks for no
interrupt, and the line it is seen in does not end before it is. -/
structure Unhindered [DisplayChip μ] (board : Board μ σ) : Prop where
  steals : board.scheduler.timing.cycleStealing = false
  hblank_le : board.scheduler.timing.hblank ≤ lineCycles
  quiet : DisplayChip.Quiet board.display

namespace Unhindered

variable [DisplayChip μ] {board : Board μ σ}

theorem of_timing (h : board.Unhindered) {after : Board μ σ}
    (ht : after.scheduler.timing = board.scheduler.timing)
    (hq : DisplayChip.Quiet after.display) : after.Unhindered :=
  ⟨by rw [ht, h.steals], by rw [ht]; exact h.hblank_le, hq⟩

theorem mapBus (h : board.Unhindered) (f : SystemBus σ → SystemBus σ) :
    (board.mapBus f).Unhindered := h.of_timing rfl h.quiet

variable [SoundChip σ]

theorem drawLine_eq (h : board.Unhindered) (line : Nat) :
    board.drawLine line =
      { board with display := (DisplayChip.render board.display line board.bus.memory).2 } := by
  simp only [drawLine, h.quiet.interrupt line board.bus.memory, Bool.false_eq_true, if_false,
    chargeDisplay, h.steals]

theorem drawLine (h : board.Unhindered) (line : Nat) : (board.drawLine line).Unhindered := by
  refine h.of_timing (timing_drawLine _ _) ?_
  rw [h.drawLine_eq line]
  exact h.quiet.render line _

theorem firstHalf (h : board.Unhindered) (line : Nat) (gun : Option Lightgun) :
    (board.firstHalf line gun).2.Unhindered := by
  refine h.of_timing (timing_firstHalf _ _ _) ?_
  rw [Board.firstHalf, display_runTo, display_strobe, board.beginLine_eq line h.steals]
  exact h.quiet

theorem secondHalf {first : Bool × Board μ σ} (h : first.2.Unhindered) (line : Nat)
    (gun : Option Lightgun) : (secondHalf first line gun).2.Unhindered := by
  refine h.of_timing (timing_secondHalf _ _ _) ?_
  unfold Board.secondHalf
  split
  · exact (h.drawLine line).quiet
  · rw [display_runTo]
    exact (h.drawLine line).quiet

theorem runLine (h : board.Unhindered) (line : Nat) (gun : Option Lightgun) (pokey : Bool) :
    (board.runLine line gun pokey).Unhindered := by
  refine h.of_timing (timing_runLine _ _ _ _) ?_
  rw [runLine_eq, display_closeLine]
  exact (secondHalf (h.firstHalf line gun) line gun).quiet

theorem runLines (h : board.Unhindered) (gun : Option Lightgun) (pokey : Bool) (count line : Nat) :
    (runLines gun pokey count line board).Unhindered := by
  induction count generalizing line board with
  | zero => exact h
  | succ count ih =>
    rw [Board.runLines]
    exact ih (h.runLine line gun pokey) (line + 1)

theorem beginFrame (h : board.Unhindered) (pokey : Bool) : (board.beginFrame pokey).Unhindered := by
  unfold Board.beginFrame
  split <;> exact h.of_timing rfl h.quiet

omit [SoundChip σ] in
theorem endFrame (h : board.Unhindered) : board.endFrame.Unhindered := h.of_timing rfl h.quiet

theorem runFrame (h : board.Unhindered) (gun : Lightgun) : (board.runFrame gun).Unhindered := by
  rw [Board.runFrame]
  exact (runLines (h.beginFrame _) _ _ _ _).endFrame

theorem bare_secondHalf {first : Bool × Board μ σ} (h : first.2.Unhindered) (line : Nat)
    (gun : Option Lightgun) :
    ((Board.secondHalf first line gun).1, (Board.secondHalf first line gun).2.bare) =
      if first.1 then (true, first.2.bare) else first.2.bare.runTo gun lineCycles := by
  rw [Board.secondHalf, h.drawLine_eq line]
  split
  · rfl
  · exact bare_runTo _ gun lineCycles

/-- A line that nothing hinders runs in one loop. -/
theorem bare_runLine (h : board.Unhindered) (line : Nat) (gun : Option Lightgun) (pokey : Bool) :
    (board.runLine line gun pokey).bare =
      closeLine (((board.beginLine line).bare.strobe gun).runTo gun lineCycles) gun pokey := by
  have hfirst : ((board.beginLine line).bare.strobe gun).runTo gun board.scheduler.timing.hblank =
      ((board.firstHalf line gun).1, (board.firstHalf line gun).2.bare) := by
    rw [← bare_strobe, ← bare_runTo, Board.firstHalf]
  rw [runLine_eq, bare_closeLine, bare_secondHalf (h.firstHalf line gun),
    runTo_runTo gun h.hblank_le ((board.beginLine line).bare.strobe gun), hfirst]
  generalize board.firstHalf line gun = first
  obtain ⟨waits, middle⟩ := first
  cases waits <;> rfl

end Unhindered

/-! ## Two boards side by side -/

/-- Boards that agree in all that is seen between frames, whatever their displays are and wherever
the horizontal blank falls. -/
structure Alike (left : Board μ σ) (right : Board ν σ) : Prop where
  cpu : left.cpu = right.cpu
  bus : left.bus = right.bus
  cycles : left.scheduler.cycles = right.scheduler.cycles
  timing : { left.scheduler.timing with hblank := 0 } = { right.scheduler.timing with hblank := 0 }

section

variable {left : Board μ σ} {right : Board ν σ}

theorem alike_of_bare (h : left.bare = right.bare) : Alike left right where
  cpu := congrArg (·.cpu) h
  bus := congrArg (·.bus) h
  cycles := congrArg (·.scheduler.cycles) h
  timing := congrArg (·.scheduler.timing) h

theorem stats_of_bare (h : left.bare = right.bare) :
    left.scheduler.stats = right.scheduler.stats := congrArg (·.scheduler.stats) h

theorem Alike.bare_beginLine (h : Alike left right)
    (hstats : left.scheduler.stats = right.scheduler.stats)
    (hl : left.scheduler.timing.cycleStealing = false)
    (hr : right.scheduler.timing.cycleStealing = false) (line : Nat) :
    (left.beginLine line).bare = (right.beginLine line).bare := by
  have hregion : left.scheduler.timing.region = right.scheduler.timing.region :=
    congrArg (·.region) h.timing
  rw [left.beginLine_eq line hl, right.beginLine_eq line hr]
  simp only [bare, Board.mk.injEq, Scheduler.mk.injEq, true_and]
  exact ⟨h.cpu, by rw [hregion, h.bus], h.timing, by rw [h.cycles], hstats⟩

theorem Alike.beginFrame [SoundChip σ] (h : Alike left right) (pokey : Bool) :
    Alike (left.beginFrame pokey) (right.beginFrame pokey) ∧
      (left.beginFrame pokey).scheduler.stats = (right.beginFrame pokey).scheduler.stats := by
  obtain ⟨hcpu, hbus, hcycles, htiming⟩ := h
  unfold Board.beginFrame
  cases pokey
  · exact ⟨⟨hcpu, hbus, hcycles, htiming⟩, rfl⟩
  · exact ⟨⟨hcpu, congrArg (·.mapPokey SoundChip.frame) hbus, hcycles, htiming⟩, rfl⟩

theorem Alike.activeGun? (h : Alike left right) (gun : Lightgun) :
    left.activeGun? gun = right.activeGun? gun := by
  have hgun : left.scheduler.timing.lightgun = right.scheduler.timing.lightgun :=
    congrArg (·.lightgun) h.timing
  rw [Board.activeGun?, Board.activeGun?, hgun, h.bus]

theorem Alike.mapBus (h : Alike left right) (f : SystemBus σ → SystemBus σ) :
    Alike (left.mapBus f) (right.mapBus f) :=
  ⟨h.cpu, congrArg f h.bus, h.cycles, h.timing⟩

variable [SoundChip σ] [DisplayChip μ] [DisplayChip ν]

theorem bare_runLines (hl : left.Unhindered) (hr : right.Unhindered) (h : left.bare = right.bare)
    (gun : Option Lightgun) (pokey : Bool) (count line : Nat) :
    (runLines gun pokey count line left).bare = (runLines gun pokey count line right).bare := by
  induction count generalizing line left right with
  | zero => exact h
  | succ count ih =>
    rw [runLines, runLines]
    refine ih (hl.runLine line gun pokey) (hr.runLine line gun pokey) ?_ (line + 1)
    rw [hl.bare_runLine, hr.bare_runLine,
      (alike_of_bare h).bare_beginLine (stats_of_bare h) hl.steals hr.steals]

theorem Alike.bare_runFrame (h : Alike left right) (hl : left.Unhindered) (hr : right.Unhindered)
    (gun : Lightgun) : (left.runFrame gun).bare = (right.runFrame gun).bare := by
  have hregion : left.scheduler.timing.region = right.scheduler.timing.region :=
    congrArg (·.region) h.timing
  obtain ⟨lines, hlines⟩ : ∃ lines, right.scheduler.timing.region.scanlines = lines + 1 := by
    cases right.scheduler.timing.region <;> exact ⟨_, rfl⟩
  rw [runFrame, runFrame, bare_endFrame, bare_endFrame, h.activeGun?, h.bus, hregion, hlines,
    runLines, runLines]
  have hleft := hl.beginFrame right.bus.pokeyActive
  have hright := hr.beginFrame right.bus.pokeyActive
  obtain ⟨hbegin, hstats⟩ := h.beginFrame right.bus.pokeyActive
  refine bare_runLines (hleft.runLine _ _ _) (hright.runLine _ _ _) ?_ _ _ _ _
  rw [hleft.bare_runLine, hright.bare_runLine,
    hbegin.bare_beginLine hstats hleft.steals hright.steals]

theorem Alike.runFrame (h : Alike left right) (hl : left.Unhindered) (hr : right.Unhindered)
    (gun : Lightgun) : Alike (left.runFrame gun) (right.runFrame gun) :=
  alike_of_bare (h.bare_runFrame hl hr gun)

/-- Run `count` frames. Before the one at `i` the host has its turn, `turns i`. -/
def runFrames (turns : Nat → HostTurn σ) : Nat → Board μ σ → Board μ σ
  | 0, board => board
  | count + 1, board =>
    ((runFrames turns count board).mapBus (turns count).onBus).runFrame (turns count).gun

theorem Unhindered.runFrames (h : left.Unhindered) (turns : Nat → HostTurn σ) (count : Nat) :
    (runFrames turns count left).Unhindered := by
  induction count with
  | zero => exact h
  | succ count ih => exact (ih.mapBus _).runFrame _

theorem Alike.runFrames (h : Alike left right) (hl : left.Unhindered) (hr : right.Unhindered)
    (turns : Nat → HostTurn σ) (count : Nat) :
    Alike (runFrames turns count left) (runFrames turns count right) := by
  induction count with
  | zero => exact h
  | succ count ih =>
    exact (ih.mapBus _).runFrame ((hl.runFrames turns count).mapBus _)
      ((hr.runFrames turns count).mapBus _) _

/-- Where the display steals nothing and asks for no interrupt, neither what it reports nor the
place of the horizontal blank makes a difference to the rest of the board, after any number of
frames, with the same turns of the host between them. -/
theorem unseen_display (h : Alike left right) (hl : left.Unhindered) (hr : right.Unhindered)
    (turns : Nat → HostTurn σ) (count : Nat) :
    Alike (runFrames turns count left) (runFrames turns count right) ∧
      (0 < count ∨ left.scheduler.stats = right.scheduler.stats →
        (runFrames turns count left).scheduler.stats =
          (runFrames turns count right).scheduler.stats) := by
  refine ⟨h.runFrames hl hr turns count, fun hstats => ?_⟩
  cases count with
  | zero => exact hstats.resolve_left (by omega)
  | succ count =>
    have hbefore := (h.runFrames hl hr turns count).mapBus (turns count).onBus
    exact stats_of_bare (hbefore.bare_runFrame ((hl.runFrames turns count).mapBus _)
      ((hr.runFrames turns count).mapBus _) _)

/-- Two stand-in displays with prices of their own, and two places of the horizontal blank. -/
theorem unseen_display_idle :
    let board (cost hblank : Nat) : Board IdleDisplay SilentSound :=
      { bus := { tia := {}, pokey := {} }
        display := { cost }
        scheduler := { timing := { hblank, cycleStealing := false }, cycles := 1000 } }
    let turns (_ : Nat) : HostTurn SilentSound := ⟨id, {}⟩
    (Alike (board 28 34) (board 90 454) ∧ (board 28 34).Unhindered ∧ (board 90 454).Unhindered) ∧
      Alike (runFrames turns 2 (board 28 34)) (runFrames turns 2 (board 90 454)) ∧
      (0 < 2 ∨ (board 28 34).scheduler.stats = (board 90 454).scheduler.stats →
        (runFrames turns 2 (board 28 34)).scheduler.stats =
          (runFrames turns 2 (board 90 454)).scheduler.stats) := by
  intro board turns
  have halike : Alike (board 28 34) (board 90 454) := ⟨rfl, rfl, rfl, rfl⟩
  have hleft : (board 28 34).Unhindered := ⟨rfl, by decide, DisplayChip.quiet_idle _⟩
  have hright : (board 90 454).Unhindered := ⟨rfl, by decide, DisplayChip.quiet_idle _⟩
  exact ⟨⟨halike, hleft, hright⟩, unseen_display halike hleft hright turns 2⟩

end
end Board
end Console7800
