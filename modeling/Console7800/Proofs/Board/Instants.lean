import Console7800.Proofs.Board.Evolution
import Console7800.Proofs.Board.Moves
import Console7800.Proofs.SystemBus.Modest

/-!
# Between the moves of a line

A line of a frame can be looked at between any two of its moves (`Board.during`). The bytes that
programs cannot write are changed by the moves that show something in them and by no others
(`read_play`): the start of a line shows the status of the display, and a strobe what the light gun
sees. A line starts once (`start_first`).
-/

namespace Console7800.Board

open SystemBus (Evolves)

/-- The read-only byte that a move shows something in. -/
def Move.shows? : Move → Option UInt16
  | .start => some displayStatus
  | .strobe => some Lightgun.latch
  | _ => none

variable {μ σ : Type} (board : Board μ σ)

/-! ## What one move does -/

theorem bus_beginLine (line : Nat) :
    (board.beginLine line).bus = markLine board.scheduler.timing.region line board.bus := by
  unfold beginLine markLine
  rw [bus_mapScheduler]
  split
  · rfl
  · split <;> rfl

theorem scanline_beginLine (line : Nat) : (board.beginLine line).scheduler.scanline = line := by
  unfold beginLine
  simp only [scheduler_mapScheduler]
  repeat' split
  all_goals rfl

/-- The start of a line shows the status of the display on its first and last line. -/
theorem status_beginLine (line : Nat) :
    (board.beginLine line).bus.memory.read displayStatus =
      if line = board.scheduler.timing.region.displayArea.top then 0
      else if line = board.scheduler.timing.region.displayArea.bottom then blankStatus
      else board.bus.memory.read displayStatus := by
  have hpoke (value : UInt8) :
      (board.bus.memory.poke displayStatus value).read displayStatus = value := by
    rw [Memory.read_poke, if_pos rfl]
  rw [bus_beginLine, markLine]
  split
  · exact hpoke 0
  · split
    · exact hpoke blankStatus
    · rfl

theorem read_beginLine (line : Nat) {address : UInt16} (h : displayStatus ≠ address) :
    (board.beginLine line).bus.memory.read address = board.bus.memory.read address := by
  have hpoke (value : UInt8) :
      (board.bus.memory.poke displayStatus value).read address = board.bus.memory.read address := by
    rw [Memory.read_poke, if_neg h]
  rw [bus_beginLine, markLine]
  split
  · exact hpoke 0
  · split
    · exact hpoke blankStatus
    · rfl

theorem read_strobe (gun : Option Lightgun) {address : UInt16} (h : Lightgun.latch ≠ address) :
    (board.strobe gun).bus.memory.read address = board.bus.memory.read address := by
  cases gun with
  | none => rfl
  | some gun => exact (Memory.read_poke ..).trans (if_neg h)

theorem read_takeWait {address : UInt16} (h : waitSync ≠ address) :
    board.takeWait.2.bus.memory.read address = board.bus.memory.read address := by
  have hpoke : (board.bus.memory.poke waitSync 0).read address = board.bus.memory.read address := by
    rw [Memory.read_poke, if_neg h]
  unfold takeWait SystemBus.takeWait
  dsimp only
  split
  · by_cases hwait : board.bus.memory.read waitSync = 0
    · simp only [hwait, if_true]
    · simp only [hwait, if_false]
      exact hpoke
  · rfl

section

variable [SoundChip σ] [DisplayChip μ] (line : Nat) (gun : Option Lightgun) (pokey : Bool)

theorem evolves_perform (move : Move) :
    Evolves board.bus (board.perform line gun pokey move).bus := by
  cases move with
  | start => exact board.evolves_beginLine line
  | strobe => exact board.evolves_strobe gun
  | instruction => exact board.evolves_step
  | takeWait => exact board.evolves_takeWait
  | render =>
    unfold perform render
    dsimp only
    split
    · exact evolves_interrupt _
    · exact .refl
  | steal | skip => exact .refl
  | sound => exact board.evolves_clockSound pokey
  | tell cycles => exact board.evolves_advanceTimer cycles

variable {board line gun pokey} {address : UInt16}

theorem scanline_perform {move : Move} (h : move ≠ .start) :
    (board.perform line gun pokey move).scheduler.scanline = board.scheduler.scanline := by
  cases move with
  | start => exact absurd rfl h
  | strobe => exact congrArg Scheduler.scanline (board.scheduler_strobe gun)
  | takeWait =>
    obtain ⟨bus, stats, hwait⟩ := board.exists_takeWait
    rw [perform, hwait]
  | render =>
    unfold perform render
    dsimp only
    split <;> rfl
  | instruction | steal | skip | sound | tell => rfl

theorem scanline_play {moves : List Move} (h : Move.start ∉ moves) :
    (board.play line gun pokey moves).scheduler.scanline = board.scheduler.scanline := by
  induction moves generalizing board with
  | nil => rfl
  | cons move moves ih =>
    rw [play_cons, ih (List.not_mem_of_not_mem_cons h),
      scanline_perform (List.ne_of_not_mem_cons h).symm]

/-- On a modest machine a move leaves a read-only byte alone that it shows nothing in. -/
theorem read_perform (hmodest : board.bus.Modest) (haddress : IsReadOnly address) {move : Move}
    (h : move.shows? ≠ some address) :
    (board.perform line gun pokey move).bus.memory.read address =
      board.bus.memory.read address := by
  cases move with
  | start => exact board.read_beginLine line fun heq => h (congrArg some heq)
  | strobe => exact board.read_strobe gun fun heq => h (congrArg some heq)
  | instruction => exact hmodest.read_run haddress board.cpu.step
  | takeWait => exact board.read_takeWait (haddress.ne (by unfold IsReadOnly; decide))
  | render =>
    unfold perform render
    dsimp only
    split
    · exact hmodest.read_run haddress board.cpu.nmi
    · rfl
  | sound => cases pokey <;> rfl
  | steal | skip | tell => rfl

theorem read_play (hmodest : board.bus.Modest) (haddress : IsReadOnly address) {moves : List Move}
    (h : ∀ move ∈ moves, move.shows? ≠ some address) :
    (board.play line gun pokey moves).bus.memory.read address =
      board.bus.memory.read address := by
  induction moves generalizing board with
  | nil => rfl
  | cons move moves ih =>
    obtain ⟨hmove, hmoves⟩ := List.forall_mem_cons.1 h
    have hnext := hmodest.evolves (board.evolves_perform line gun pokey move)
    rw [play_cons, ih hnext hmoves, read_perform hmodest haddress hmove]

end

/-! ## A line starts once -/

section

variable [SoundChip σ] [DisplayChip μ] {board} {line : Nat} {gun : Option Lightgun}

theorem lineMoves_eq (board : Board μ σ) (line : Nat) (gun : Option Lightgun) :
    board.lineMoves line gun =
      .start :: .strobe :: (turnMoves (board.firstTurns line gun) ++
        ((board.firstHalf line gun).2.drawMoves line ++
          (turnMoves (board.secondTurns line gun) ++ board.closeMoves line gun))) := by
  rw [lineMoves, runMoves, List.append_assoc, List.singleton_append, List.append_assoc,
    List.cons_append]

/-- On every line the display draws, after the turns of the first loop. -/
theorem exists_lineMoves_render (board : Board μ σ) (line : Nat) (gun : Option Lightgun) :
    ∃ later, board.lineMoves line gun =
      .start :: .strobe :: turnMoves (board.firstTurns line gun) ++ .render :: later := by
  have hparts (first drawn rest : List Move) :
      ∃ later, Move.start :: .strobe :: (first ++ (.render :: drawn ++ rest)) =
        .start :: .strobe :: first ++ .render :: later := ⟨drawn ++ rest, rfl⟩
  rw [lineMoves_eq]
  exact hparts _ _ _

theorem not_mem_of_parts {move : Move} (hstrobe : move ≠ .strobe)
    (hturns : ∀ turns : List (Turn μ σ), move ∉ turnMoves turns)
    (hdraw : move ∉ (board.firstHalf line gun).2.drawMoves line)
    (hclose : move ∉ board.closeMoves line gun) :
    move ∉ board.runMoves line gun ++ board.closeMoves line gun := by
  have hparts {first drawn second close : List Move} (hfirst : move ∉ first)
      (hdrawn : move ∉ drawn) (hsecond : move ∉ second) (hclose : move ∉ close) :
      move ∉ ([.strobe] ++ first) ++ (drawn ++ second) ++ close := by
    simp [hstrobe, hfirst, hdrawn, hsecond, hclose]
  exact hparts (hturns _) hdraw (hturns _) hclose

theorem start_not_mem : Move.start ∉ board.runMoves line gun ++ board.closeMoves line gun := by
  refine not_mem_of_parts nofun (fun turns => by simp [turnMoves]) ?_ ?_
  · unfold drawMoves
    split <;> simp
  · unfold closeMoves haltMoves
    split <;> simp

theorem start_first {earlier later : List Move} {move : Move}
    (h : board.lineMoves line gun = earlier ++ move :: later) (hmove : move ≠ .start) :
    ∃ moves, earlier = .start :: moves ∧ Move.start ∉ moves := by
  cases earlier with
  | nil => exact absurd (List.cons.inj h).1.symm hmove
  | cons first moves =>
    obtain ⟨rfl, hrest⟩ := List.cons.inj h
    have hnone : Move.start ∉ board.runMoves line gun ++ board.closeMoves line gun := start_not_mem
    rw [hrest] at hnone
    exact ⟨moves, rfl, fun hmem => hnone (List.mem_append_left _ hmem)⟩

end

/-! ## The lines of a frame -/

variable [SoundChip σ] [DisplayChip μ] (gun : Lightgun)

/-- The moves of a line of the next frame. -/
def movesIn (line : Nat) : List Move :=
  (board.lineEnd gun (line - 1)).lineMoves line (board.activeGun? gun)

/-- The next frame, after moves on a line of it. -/
def during (line : Nat) (moves : List Move) : Board μ σ :=
  (board.lineEnd gun (line - 1)).play line (board.activeGun? gun) board.bus.pokeyActive moves

/-- The moves of the lines make the frame. -/
theorem during_movesIn {line : Nat} (h : 0 < line) :
    board.during gun line (board.movesIn gun line) = board.lineEnd gun line := by
  obtain ⟨count, rfl⟩ := Nat.exists_eq_add_of_lt h
  rw [during, movesIn, play_lineMoves, Nat.zero_add, Nat.add_sub_cancel, lineEnd_succ,
    Nat.add_comm]

theorem evolves_lineEnd (count : Nat) : Evolves board.bus (board.lineEnd gun count).bus :=
  (board.evolves_beginFrame _).trans (evolves_runLines _ _ _ _ _)

end Console7800.Board
