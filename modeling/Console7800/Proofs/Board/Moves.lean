import Console7800.Proofs.Board.Turns

/-!
# The moves of a line, and what the timer is told

A line is a list of moves, each of them one thing that the scheduler does; played one after the
other they are the line (`play_lineMoves`). The timer is told of cycles in moves of its own: of what
an instruction took, of the display's time on the bus and of the time that a halt passes over. What
it is told on a line is what moves the counter, less what is lost where quarters are no whole cycle
(`runLine_told`).
-/

namespace Console7800.Board

/-- One thing that is done on a line. -/
inductive Move where
  | start
  | strobe
  | instruction
  | takeWait
  | render
  /-- The display's time on the bus is charged. -/
  | steal (quarters : Nat)
  /-- The counter is put to the end of the line. -/
  | skip
  | sound
  /-- The timer is told that processor cycles have passed. -/
  | tell (cycles : Nat)
  deriving Repr, DecidableEq

/-- What the timer is told in a move. -/
def Move.told : Move → Nat
  | .tell cycles => cycles
  | _ => 0

/-- What the timer is told in all. -/
def told (moves : List Move) : Nat := (moves.map Move.told).sum

@[simp] theorem told_nil : told [] = 0 := rfl

@[simp] theorem told_cons (move : Move) (moves : List Move) :
    told (move :: moves) = move.told + told moves := by
  simp [told]

@[simp] theorem told_append (first second : List Move) :
    told (first ++ second) = told first + told second := by
  simp [told]

variable {μ σ : Type} (board : Board μ σ)

/-- The counter and the frame's account with the display's time on them. -/
def steal (quarters : Nat) : Board μ σ :=
  board.mapScheduler fun scheduler =>
    { scheduler with
      cycles := scheduler.cycles + quarters
      stats := { scheduler.stats with dmaCycles := scheduler.stats.dmaCycles + quarters } }

def skip : Board μ σ := board.mapScheduler ({ · with cycles := lineCycles })

section

variable [SoundChip σ] [DisplayChip μ]

/-- Let the display draw, and raise the interrupt that it asks for. -/
def render (line : Nat) : Board μ σ :=
  match DisplayChip.render board.display line board.bus.memory with
  | (report, display) =>
    let board := { board with display }
    if report.interrupt then board.interrupt else board

/-- Make a move on a line. -/
def perform (line : Nat) (gun : Option Lightgun) (pokey : Bool) (board : Board μ σ) :
    Move → Board μ σ
  | .start => board.beginLine line
  | .strobe => board.strobe gun
  | .instruction => board.step.2
  | .takeWait => board.takeWait.2
  | .render => board.render line
  | .steal quarters => board.steal quarters
  | .skip => board.skip
  | .sound => board.clockSound pokey
  | .tell cycles => board.advanceTimer cycles

/-- Make moves on a line, one after the other. -/
def play (line : Nat) (gun : Option Lightgun) (pokey : Bool) (moves : List Move) : Board μ σ :=
  moves.foldl (perform line gun pokey) board

end

/-! ## The moves of each part -/

/-- The moves of turns. -/
def turnMoves (turns : List (Turn μ σ)) : List Move :=
  turns.flatMap fun turn => [.instruction, .tell turn.cycles, .strobe, .takeWait]

@[simp] theorem turnMoves_nil : turnMoves ([] : List (Turn μ σ)) = [] := rfl

theorem told_turnMoves (turns : List (Turn μ σ)) :
    told (turnMoves turns) = (turns.map Turn.cycles).sum := by
  induction turns with
  | nil => rfl
  | cons turn turns ih =>
    have hturn : told [.instruction, .tell turn.cycles, .strobe, .takeWait] = turn.cycles := by
      simp [Move.told]
    rw [turnMoves, List.flatMap_cons, told_append, hturn, List.map_cons, List.sum_cons]
    exact congrArg (turn.cycles + ·) ih

theorem sum_quarters (turns : List (Turn μ σ)) :
    (turns.map Turn.quarters).sum =
      4 * (turns.map Turn.cycles).sum + 2 * turns.countP Turn.half := by
  induction turns with
  | nil => rfl
  | cons turn turns ih =>
    have hturn : turn.quarters = 4 * turn.cycles + if turn.half then 2 else 0 := rfl
    rw [List.map_cons, List.sum_cons, List.map_cons, List.sum_cons, List.countP_cons, ih, hturn]
    split <;> omega

section

variable [SoundChip σ] [DisplayChip μ] (line : Nat) (gun : Option Lightgun) (pokey : Bool)

/-- The moves in which the display draws. -/
def drawMoves : List Move :=
  .render :: if board.scheduler.timing.cycleStealing then
    let quarters := (DisplayChip.render board.display line board.bus.memory).1.cycles
    [.steal quarters, .tell (quarters / 4)]
  else []

omit [SoundChip σ] [DisplayChip μ] in
/-- The moves of a halt, if the line ends with one. -/
def haltMoves (second : Bool × Board μ σ) : List Move :=
  if second.1 ∧ second.2.scheduler.cycles < lineCycles then
    [.tell ((lineCycles - second.2.scheduler.cycles) / 4), .skip]
  else []

/-- The turns of the second loop. -/
def secondTurns : List (Turn μ σ) :=
  if (board.firstHalf line gun).1 then []
  else ((board.firstHalf line gun).2.drawLine line).turnsTo gun lineCycles

/-- The moves between the start of a line and the end of its second loop. -/
def runMoves : List Move :=
  ([.strobe] ++ turnMoves (board.firstTurns line gun)) ++
    ((board.firstHalf line gun).2.drawMoves line ++ turnMoves (board.secondTurns line gun))

/-- The moves after that. -/
def closeMoves : List Move :=
  haltMoves (secondHalf (board.firstHalf line gun) line gun) ++ [.strobe, .sound]

/-- The moves of a line. -/
def lineMoves : List Move :=
  .start :: (board.runMoves line gun ++ board.closeMoves line gun)

@[simp] theorem play_nil : board.play line gun pokey [] = board := rfl

@[simp] theorem play_cons (move : Move) (moves : List Move) :
    board.play line gun pokey (move :: moves) =
      (board.perform line gun pokey move).play line gun pokey moves := rfl

theorem play_append (first second : List Move) :
    board.play line gun pokey (first ++ second) =
      (board.play line gun pokey first).play line gun pokey second :=
  List.foldl_append

theorem play_turnsFor (limit fuel : Nat) :
    board.play line gun pokey (turnMoves (turnsFor gun limit fuel board)) =
      (runFor gun limit fuel board).2 := by
  induction fuel generalizing board with
  | zero => rfl
  | succ fuel ih =>
    unfold turnsFor runFor
    split
    · have hturn : board.play line gun pokey
          [.instruction, .tell (board.turn gun).cycles, .strobe, .takeWait] =
            (board.stepWatched gun).2 := rfl
      rw [turnMoves, List.flatMap_cons, play_append, hturn]
      rcases hstep : board.stepWatched gun with ⟨waits, after⟩
      have hwaits : (board.turn gun).waits = waits := congrArg Prod.fst hstep
      have hafter : (board.turn gun).after = after := congrArg Prod.snd hstep
      cases waits with
      | true => simp only [hwaits, if_true]; rfl
      | false =>
        simp only [hwaits, hafter, Bool.false_eq_true, if_false]
        exact ih after
    · rfl

theorem play_turnsTo (limit : Nat) :
    board.play line gun pokey (turnMoves (board.turnsTo gun limit)) =
      (board.runTo gun limit).2 :=
  play_turnsFor board line gun pokey limit _

theorem play_firstTurns :
    (board.beginLine line).play line gun pokey
        ([.strobe] ++ turnMoves (board.firstTurns line gun)) =
      (board.firstHalf line gun).2 := by
  rw [play_append]
  exact play_turnsTo _ line gun pokey _

theorem play_drawMoves :
    board.play line gun pokey (board.drawMoves line) = board.drawLine line := by
  -- The moves ask before the drawing whether the display steals, `drawLine` asks after it.
  have htiming : (board.render line).scheduler.timing = board.scheduler.timing := by
    unfold render
    dsimp only
    split <;> rfl
  have hdrawn : board.drawLine line = (board.render line).chargeDisplay
      (DisplayChip.render board.display line board.bus.memory).1.cycles := rfl
  rw [hdrawn, chargeDisplay, htiming, drawMoves]
  split <;> rfl

theorem play_secondTurns :
    (board.firstHalf line gun).2.play line gun pokey
        ((board.firstHalf line gun).2.drawMoves line ++ turnMoves (board.secondTurns line gun)) =
      (secondHalf (board.firstHalf line gun) line gun).2 := by
  rw [play_append, play_drawMoves]
  unfold secondTurns secondHalf
  split
  · rw [turnMoves_nil, play_nil]
  · exact play_turnsTo _ line gun pokey _

theorem play_runMoves :
    (board.beginLine line).play line gun pokey (board.runMoves line gun) =
      (secondHalf (board.firstHalf line gun) line gun).2 := by
  rw [runMoves, play_append, play_firstTurns, play_secondTurns]

theorem play_haltMoves (second : Bool × Board μ σ) :
    second.2.play line gun pokey (haltMoves second ++ [.strobe, .sound]) =
      closeLine second gun pokey := by
  rcases second with ⟨halted, board⟩
  cases halted with
  | false => rfl
  | true =>
    by_cases hlt : board.scheduler.cycles < lineCycles
    · simp only [haltMoves, closeLine, halt, hlt, if_true, and_self]
      rfl
    · simp only [haltMoves, closeLine, halt, hlt, if_true, if_false, and_false]
      rfl

theorem play_lineMoves :
    board.play line gun pokey (board.lineMoves line gun) = board.runLine line gun pokey := by
  rw [lineMoves, play_cons, perform, play_append, play_runMoves, closeMoves, play_haltMoves,
    runLine_eq]

/-! ## The counter climbs -/

/-- None of the moves puts the counter back. -/
def Climbs (board : Board μ σ) : List Move → Prop
  | [] => True
  | move :: moves =>
    board.scheduler.cycles ≤ (board.perform line gun pokey move).scheduler.cycles ∧
      (board.perform line gun pokey move).Climbs moves

section

variable {board line gun pokey}

theorem Climbs.append {first second : List Move} (hfirst : board.Climbs line gun pokey first)
    (hsecond : (board.play line gun pokey first).Climbs line gun pokey second) :
    board.Climbs line gun pokey (first ++ second) := by
  induction first generalizing board with
  | nil => exact hsecond
  | cons move first ih => exact ⟨hfirst.1, ih hfirst.2 hsecond⟩

theorem Climbs.of_append {first second : List Move}
    (h : board.Climbs line gun pokey (first ++ second)) :
    (board.play line gun pokey first).Climbs line gun pokey second := by
  induction first generalizing board with
  | nil => exact h
  | cons move first ih => exact ih h.2

theorem Climbs.le {moves : List Move} (h : board.Climbs line gun pokey moves) :
    board.scheduler.cycles ≤ (board.play line gun pokey moves).scheduler.cycles := by
  induction moves generalizing board with
  | nil => exact Nat.le_refl _
  | cons move moves ih => exact Nat.le_trans h.1 (ih h.2)

/-- Moves that put the counter back on no board. -/
def Move.climbs : Move → Bool
  | .start | .skip => false
  | _ => true

theorem le_perform {move : Move} (h : move.climbs = true) :
    board.scheduler.cycles ≤ (board.perform line gun pokey move).scheduler.cycles := by
  cases move with
  | start | skip => cases h
  | instruction => exact board.cycles_step ▸ Nat.le_add_right ..
  | steal quarters => exact Nat.le_add_right ..
  | strobe | takeWait | sound | tell => simp [perform]
  | render =>
    unfold perform render
    dsimp only
    split <;> exact Nat.le_refl _

theorem climbs_of_all {moves : List Move} (h : moves.all Move.climbs = true) :
    board.Climbs line gun pokey moves := by
  induction moves generalizing board with
  | nil => trivial
  | cons move moves ih =>
    obtain ⟨hmove, hmoves⟩ := Bool.and_eq_true_iff.1 h
    exact ⟨le_perform hmove, ih hmoves⟩

end

omit [SoundChip σ] [DisplayChip μ] in
theorem all_climbs_turnMoves (turns : List (Turn μ σ)) :
    (turnMoves turns).all Move.climbs = true := by
  simp [turnMoves, Move.climbs]

omit [SoundChip σ] in
theorem all_climbs_drawMoves : (board.drawMoves line).all Move.climbs = true := by
  unfold drawMoves
  split <;> rfl

/-- A halt puts the counter to the end of a line that it has not reached. -/
theorem climbs_haltMoves (second : Bool × Board μ σ) :
    second.2.Climbs line gun pokey (haltMoves second) := by
  unfold haltMoves
  split
  · rename_i h
    exact ⟨Nat.le_refl _, Nat.le_of_lt h.2, trivial⟩
  · trivial

/-- After the start of a line nothing puts the counter back. -/
theorem climbs_lineMoves :
    (board.beginLine line).Climbs line gun pokey
      (board.runMoves line gun ++ board.closeMoves line gun) := by
  have hrun : (board.runMoves line gun).all Move.climbs = true := by
    rw [runMoves, List.all_append, List.all_append, List.all_append, all_climbs_turnMoves,
      all_climbs_turnMoves, all_climbs_drawMoves]
    rfl
  refine (climbs_of_all hrun).append ?_
  rw [play_runMoves, closeMoves]
  exact (climbs_haltMoves line gun pokey _).append (climbs_of_all rfl)

/-- Nowhere on a line is the counter larger than at its end. -/
theorem le_play_of_prefix {earlier later : List Move}
    (h : board.lineMoves line gun = .start :: (earlier ++ later)) :
    (board.play line gun pokey (.start :: earlier)).scheduler.cycles ≤
      (board.runLine line gun pokey).scheduler.cycles := by
  have hclimbs := board.climbs_lineMoves line gun pokey
  rw [(List.cons.inj h).2] at hclimbs
  rw [← play_lineMoves, h, ← List.cons_append, play_append]
  exact hclimbs.of_append.le

/-! ## What a line tells -/

omit [SoundChip σ] [DisplayChip μ] in
theorem dmaEnabled_poke (memory : Memory) (value : UInt8) :
    (memory.poke displayStatus value).dmaEnabled = memory.dmaEnabled := by
  rw [Memory.dmaEnabled, Memory.read_poke, if_neg (by decide)]
  rfl

omit [SoundChip σ] [DisplayChip μ] in
/-- The counter at the start of a line is what was left over from the line before, or nothing where
the display steals. -/
theorem cycles_beginLine_eq :
    (board.beginLine line).scheduler.cycles =
      if board.scheduler.timing.cycleStealing && board.bus.memory.dmaEnabled then 0
      else board.scheduler.cycles % lineCycles := by
  have hmarked (value : UInt8) :
      (board.mapMemory (·.poke displayStatus value)).bus.memory.dmaEnabled =
        board.bus.memory.dmaEnabled := dmaEnabled_poke board.bus.memory value
  unfold beginLine
  simp only [scheduler_mapScheduler]
  split
  · rw [hmarked, scheduler_mapMemory]
    split <;> rfl
  · split
    · rw [hmarked, scheduler_mapMemory]
      split <;> rfl
    · split <;> rfl

omit [SoundChip σ] in
theorem told_drawMoves :
    told (board.drawMoves line) = Charge.total (board.displayCharges line) / 4 := by
  unfold drawMoves displayCharges
  split <;> simp [Move.told, Charge.quarters]

omit [SoundChip σ] [DisplayChip μ] in
theorem told_haltMoves (second : Bool × Board μ σ) :
    told (haltMoves second) = Charge.total (closeCharges second) / 4 := by
  unfold haltMoves closeCharges
  split <;> simp [Move.told, Charge.quarters]

theorem told_lineMoves :
    told (board.lineMoves line gun) =
      ((board.lineTurns line gun).map Turn.cycles).sum + board.displayCost line gun / 4 +
        Charge.total (closeCharges (secondHalf (board.firstHalf line gun) line gun)) / 4 := by
  have hturns : board.lineTurns line gun =
      board.firstTurns line gun ++ board.secondTurns line gun := rfl
  rw [hturns, List.map_append, List.sum_append, ← total_displayCharges_firstHalf]
  simp only [lineMoves, runMoves, closeMoves, told_append, told_turnMoves, told_drawMoves,
    told_haltMoves, told_cons, told_nil, Move.told]
  omega

/-- A halt passes over the rest of a line on which a program waits. -/
theorem total_closeCharges_turns :
    Charge.total (closeCharges (secondHalf (board.firstHalf line gun) line gun)) =
      if (board.lineTurns line gun).any Turn.waits then
        lineCycles - (secondHalf (board.firstHalf line gun) line gun).2.scheduler.cycles
      else 0 := by
  have hwaits := (board.turned_secondHalf line gun).waits_iff
  rw [← List.any_eq_true] at hwaits
  simp only [closeCharges, hwaits]
  generalize (board.lineTurns line gun).any Turn.waits = waits
  cases waits with
  | false => rfl
  | true =>
    by_cases hlt : (secondHalf (board.firstHalf line gun) line gun).2.scheduler.cycles < lineCycles
    · simp [hlt, Charge.quarters]
    · simp [hlt]
      omega

/-- On any board and with any display, what a line tells the timer is what its instructions took,
and the whole cycles of the display's time and of the time that a halt passes over. The same moves
the counter, and so the timer is never ahead of it. Nowhere on the line is the counter larger than
at its end: if it is in range there, no addition to it has gone over. -/
theorem runLine_told (board : Board μ σ) (line : Nat) (gun : Option Lightgun) (pokey : Bool) :
    let turns := board.lineTurns line gun
    let cycles := (turns.map Turn.cycles).sum
    let halves := turns.countP Turn.half
    let stolen := board.displayCost line gun
    let start :=
      if board.scheduler.timing.cycleStealing && board.bus.memory.dmaEnabled then 0
      else board.scheduler.cycles % 454
    let skipped :=
      if turns.any Turn.waits then 454 - (start + 4 * cycles + 2 * halves + stolen) else 0
    let moves := board.lineMoves line gun
    let after := board.play line gun pokey moves
    after = board.runLine line gun pokey ∧
      after.scheduler.cycles = start + (4 * cycles + 2 * halves + stolen + skipped) ∧
      (∀ earlier later, moves = .start :: (earlier ++ later) →
        (board.play line gun pokey (.start :: earlier)).scheduler.cycles ≤
          after.scheduler.cycles) ∧
      told moves = cycles + stolen / 4 + skipped / 4 ∧
      start + 4 * told moves ≤ after.scheduler.cycles := by
  intro turns cycles halves stolen start skipped moves after
  have hafter : after = board.runLine line gun pokey := board.play_lineMoves line gun pokey
  have hturns : (secondHalf (board.firstHalf line gun) line gun).2.scheduler.cycles =
      start + 4 * cycles + 2 * halves + stolen := by
    rw [cycles_secondHalf_turns, sum_quarters, cycles_beginLine_eq, Nat.add_assoc start]
    rfl
  have hskipped : Charge.total (closeCharges (secondHalf (board.firstHalf line gun) line gun)) =
      skipped := by
    rw [total_closeCharges_turns, hturns]
    rfl
  have hcycles : after.scheduler.cycles =
      start + (4 * cycles + 2 * halves + stolen + skipped) := by
    rw [hafter, runLine_eq, cycles_closeLine_eq, hturns, hskipped]
    omega
  have htold : told moves = cycles + stolen / 4 + skipped / 4 := by
    rw [← hskipped]
    exact board.told_lineMoves line gun
  refine ⟨hafter, hcycles, fun earlier later hmoves => ?_, htold, by omega⟩
  rw [hafter]
  exact board.le_play_of_prefix line gun pokey hmoves

end
end Console7800.Board
