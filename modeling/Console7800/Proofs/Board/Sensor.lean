import Console7800.Proofs.Board.Instants

/-!
# What the light gun's sensor shows

A strobe shows in the latch what the gun sees at the counter. After each instruction there is one
before the next, but there is none after the display's time has been charged. So the instruction
that follows a charge finds what the gun saw before it (`sensor_shows`): the sensor is behind the
beam there if the charge has brought the beam to the point that the gun is aimed at.
-/

namespace Console7800

namespace Lightgun

/-- While a line lasts, the gun goes on seeing the beam. -/
theorem sees_mono {gun : Lightgun} {line first later : Nat} (hle : first ≤ later)
    (h : gun.sees line first = true) : gun.sees line later = true := by
  unfold sees at h ⊢
  simp only [Bool.and_eq_true, decide_eq_true_eq] at h ⊢
  exact ⟨h.1, by omega⟩

theorem low_strobe_iff (gun : Lightgun) (line cycles : Nat) (memory : Memory) :
    (gun.strobe line cycles memory).read latch &&& 0x80 = 0 ↔ gun.sees line cycles = true := by
  have hclear (value : UInt8) : value &&& 0x7F &&& 0x80 = 0 := by
    rw [UInt8.and_assoc]
    exact UInt8.and_zero
  have hset (value : UInt8) : (value ||| 0x80) &&& 0x80 ≠ 0 := by
    intro hzero
    have hbits : (value.toBitVec ||| 0x80) &&& 0x80 = 0 := congrArg UInt8.toBitVec hzero
    rw [BitVec.and_or_distrib_right] at hbits
    exact absurd (BitVec.or_eq_zero_iff.1 hbits).2 (by decide)
  unfold strobe
  rw [Memory.read_poke, if_pos rfl]
  cases gun.sees line cycles with
  | true => simp only [if_true, hclear]
  | false => simp only [Bool.false_eq_true, if_false, hset]

end Lightgun

namespace Board

variable {μ σ : Type}

/-- Bit 7 of the gun's latch is low. -/
def SensorLow (board : Board μ σ) : Prop := board.bus.memory.read Lightgun.latch &&& 0x80 = 0

/-- The sensor shows what the gun saw when the counter stood lower by `late`. -/
structure Senses (gun : Lightgun) (line late : Nat) (board : Board μ σ) : Prop where
  late_le : late ≤ board.scheduler.cycles
  low_iff : board.SensorLow ↔ gun.sees line (board.scheduler.cycles - late) = true

section

variable {board after : Board μ σ} {gun : Lightgun} {line late : Nat}

/-- A sensor that is behind shows whether the gun sees the beam, unless the beam has come in front
of it since. -/
theorem Senses.current_iff (h : board.Senses gun line late) :
    (board.SensorLow ↔ gun.sees line board.scheduler.cycles = true) ↔
      (gun.sees line board.scheduler.cycles = true →
        gun.sees line (board.scheduler.cycles - late) = true) := by
  rw [h.low_iff]
  exact ⟨fun hiff => hiff.2, fun hearlier => ⟨Lightgun.sees_mono (Nat.sub_le ..), hearlier⟩⟩

theorem senses_strobe (h : board.scheduler.scanline = line) :
    (board.strobe (some gun)).Senses gun line 0 := by
  refine ⟨Nat.zero_le _, ?_⟩
  rw [scheduler_strobe, Nat.sub_zero, ← h]
  exact gun.low_strobe_iff _ _ _

theorem Senses.of_eq (h : board.Senses gun line late)
    (hcycles : after.scheduler.cycles = board.scheduler.cycles)
    (hread : after.bus.memory.read Lightgun.latch = board.bus.memory.read Lightgun.latch) :
    after.Senses gun line late := by
  obtain ⟨hle, hlow⟩ := h
  refine ⟨hcycles ▸ hle, ?_⟩
  rw [SensorLow, hread, hcycles]
  exact hlow

end

/-! ## From one strobe to the next -/

/-- The gun has been looked at since the line began, since the last instruction and since a halt. -/
def Move.looked (before : Bool) : Move → Bool
  | .strobe => true
  | .start | .instruction | .skip => false
  | .takeWait | .render | .steal _ | .sound | .tell _ => before

/-- What the display has been charged since the gun was looked at last. -/
def Move.late (before : Nat) : Move → Nat
  | .strobe => 0
  | .steal quarters => before + quarters
  | _ => before

def looked (before : Bool) (moves : List Move) : Bool := moves.foldl Move.looked before

/-- What the display is charged after the last strobe. -/
def lateness (moves : List Move) : Nat := moves.foldl Move.late 0

theorem lateness_eq_zero {moves : List Move} (h : ∀ quarters, Move.steal quarters ∉ moves) :
    lateness moves = 0 := by
  unfold lateness
  induction moves with
  | nil => rfl
  | cons move moves ih =>
    have hmove : move.late 0 = 0 := by
      cases move with
      | steal quarters => exact absurd List.mem_cons_self (h quarters)
      | _ => rfl
    rw [List.foldl_cons, hmove]
    exact ih fun quarters => List.not_mem_of_not_mem_cons (h quarters)

section

variable [SoundChip σ] [DisplayChip μ] {board : Board μ σ} {line : Nat} {gun : Lightgun}
  {pokey : Bool}

/-- What a move makes of a sensor that is behind by `late`, if it does not move the counter by more
than it says. -/
theorem senses_perform (hmodest : board.bus.Modest) (hline : board.scheduler.scanline = line)
    {before : Bool} {late : Nat} (h : before = true → board.Senses gun line late) {move : Move}
    (hlooked : move.looked before = true) :
    (board.perform line (some gun) pokey move).Senses gun line (move.late late) := by
  have hread (hshows : move.shows? ≠ some Lightgun.latch) :
      (board.perform line (some gun) pokey move).bus.memory.read Lightgun.latch =
        board.bus.memory.read Lightgun.latch := read_perform hmodest isReadOnly_gunLatch hshows
  cases move with
  | start | instruction | skip => cases hlooked
  | strobe => exact senses_strobe hline
  | takeWait => exact (h hlooked).of_eq board.cycles_takeWait (hread nofun)
  | render =>
    refine (h hlooked).of_eq ?_ (hread nofun)
    unfold perform render
    dsimp only
    split <;> rfl
  | sound | tell => exact (h hlooked).of_eq rfl (hread nofun)
  | steal quarters =>
    obtain ⟨hle, hlow⟩ := h hlooked
    refine ⟨Nat.add_le_add_right hle quarters, ?_⟩
    have hcycles : (board.steal quarters).scheduler.cycles - (late + quarters) =
        board.scheduler.cycles - late := Nat.add_sub_add_right ..
    rw [perform, Move.late, hcycles]
    exact hlow

theorem senses_play (hmodest : board.bus.Modest) (hline : board.scheduler.scanline = line)
    {moves : List Move} (hmoves : Move.start ∉ moves) {before : Bool} {late : Nat}
    (h : before = true → board.Senses gun line late) (hlooked : looked before moves = true) :
    (board.play line (some gun) pokey moves).Senses gun line (moves.foldl Move.late late) := by
  induction moves generalizing board before late with
  | nil => exact h hlooked
  | cons move moves ih =>
    have hnext := hmodest.evolves (board.evolves_perform line (some gun) pokey move)
    have hscanline : (board.perform line (some gun) pokey move).scheduler.scanline = line :=
      (scanline_perform (List.ne_of_not_mem_cons hmoves).symm).trans hline
    exact ih hnext hscanline (List.not_mem_of_not_mem_cons hmoves)
      (senses_perform hmodest hline h) hlooked

end

/-! ## The gun is looked at before every instruction -/

/-- Before each instruction the gun has been looked at. -/
def Watched : Bool → List Move → Prop
  | _, [] => True
  | before, move :: moves =>
    (move = .instruction → before = true) ∧ Watched (move.looked before) moves

theorem Watched.append {before : Bool} {first second : List Move} (hfirst : Watched before first)
    (hsecond : Watched (looked before first) second) : Watched before (first ++ second) := by
  induction first generalizing before with
  | nil => exact hsecond
  | cons move first ih => exact ⟨hfirst.1, ih hfirst.2 hsecond⟩

theorem Watched.looked_of_append {before : Bool} {earlier later : List Move}
    (h : Watched before (earlier ++ .instruction :: later)) : looked before earlier = true := by
  induction earlier generalizing before with
  | nil => exact h.1 rfl
  | cons move earlier ih => exact ih h.2

theorem watched_of_not_mem {before : Bool} {moves : List Move} (h : Move.instruction ∉ moves) :
    Watched before moves := by
  induction moves generalizing before with
  | nil => trivial
  | cons move moves ih =>
    exact ⟨fun heq => absurd heq.symm (List.ne_of_not_mem_cons h),
      ih (List.not_mem_of_not_mem_cons h)⟩

/-- Moves that find the gun looked at, and leave it so. -/
structure Steady (moves : List Move) : Prop where
  watched : Watched true moves
  looked : looked true moves = true

theorem Steady.append_watched {first second : List Move} (hfirst : Steady first)
    (hsecond : Watched true second) : Watched true (first ++ second) := by
  refine hfirst.watched.append ?_
  rw [hfirst.looked]
  exact hsecond

theorem Steady.append {first second : List Move} (hfirst : Steady first) (hsecond : Steady second) :
    Steady (first ++ second) := by
  refine ⟨hfirst.append_watched hsecond.watched, List.foldl_append.trans ?_⟩
  rw [show first.foldl Move.looked true = true from hfirst.looked]
  exact hsecond.looked

/-- Each turn ends with a look at the gun. -/
theorem steady_turnMoves (turns : List (Turn μ σ)) : Steady (turnMoves turns) := by
  induction turns with
  | nil => exact ⟨trivial, rfl⟩
  | cons turn turns ih =>
    have hturn : Steady [.instruction, .tell turn.cycles, .strobe, .takeWait] :=
      ⟨by simp [Watched], rfl⟩
    rw [turnMoves, List.flatMap_cons]
    exact hturn.append ih

section

variable [SoundChip σ] [DisplayChip μ] (board : Board μ σ) (line : Nat) (gun : Option Lightgun)

omit [SoundChip σ] in
theorem steady_drawMoves : Steady (board.drawMoves line) := by
  unfold drawMoves
  split <;> exact ⟨by simp [Watched], rfl⟩

theorem watched_lineMoves : Watched false (board.lineMoves line gun) := by
  have hparts {first drawn second close : List Move} (hfirst : Steady first)
      (hdrawn : Steady drawn) (hsecond : Steady second) (hclose : Move.instruction ∉ close) :
      Watched false (.start :: .strobe :: (first ++ (drawn ++ (second ++ close)))) :=
    ⟨nofun, nofun, hfirst.append_watched (hdrawn.append_watched
      (hsecond.append_watched (watched_of_not_mem hclose)))⟩
  have hclose : Move.instruction ∉ board.closeMoves line gun := by
    unfold closeMoves haltMoves
    split <;> simp
  rw [lineMoves_eq]
  exact hparts (steady_turnMoves _) (steady_drawMoves _ line) (steady_turnMoves _) hclose

theorem steal_not_mem_lineMoves (h : board.scheduler.timing.cycleStealing = false)
    (quarters : Nat) : Move.steal quarters ∉ board.lineMoves line gun := by
  refine List.not_mem_cons_of_ne_of_not_mem nofun (not_mem_of_parts nofun ?_ ?_ ?_)
  · exact fun turns => by simp [turnMoves]
  · rw [drawMoves, timing_firstHalf, h]
    simp
  · unfold closeMoves haltMoves
    split <;> simp

end

section

variable [SoundChip σ] [DisplayChip μ] {board : Board μ σ} {gun : Lightgun} {line : Nat}
  {earlier later : List Move}

/-- A modest machine, in a frame in which the gun is looked at, before any instruction. The sensor
is behind by what the display has just been charged; so it shows what the gun sees exactly if the
charge has not brought the beam in front of the gun. A display that does not steal leaves it up to
date. -/
theorem sensor_shows (hmodest : board.bus.Modest) (hgun : board.activeGun? gun = some gun)
    (hmoves : board.movesIn gun line = earlier ++ .instruction :: later) :
    let here := board.during gun line earlier
    let cycles := here.scheduler.cycles
    let late := lateness earlier
    here.scheduler.scanline = line ∧ late ≤ cycles ∧
      (here.SensorLow ↔ gun.sees line (cycles - late) = true) ∧
      ((here.SensorLow ↔ gun.sees line cycles = true) ↔
        (gun.sees line cycles = true → gun.sees line (cycles - late) = true)) ∧
      (board.scheduler.timing.cycleStealing = false → late = 0) := by
  intro here cycles late
  let before := board.lineEnd gun (line - 1)
  have hline : before.lineMoves line (board.activeGun? gun) = earlier ++ .instruction :: later :=
    hmoves
  have hwatched := before.watched_lineMoves line (board.activeGun? gun)
  rw [hline] at hwatched
  obtain ⟨moves, rfl, hstart⟩ := start_first hline nofun
  have hlooked : looked false moves = true := hwatched.looked_of_append
  have hplayed : here =
      (before.beginLine line).play line (some gun) board.bus.pokeyActive moves := by
    rw [← hgun]
    rfl
  have hbegun : (before.beginLine line).bus.Modest :=
    hmodest.evolves ((board.evolves_lineEnd gun _).trans (before.evolves_beginLine line))
  have hsenses : here.Senses gun line late := by
    rw [hplayed]
    exact senses_play hbegun (before.scanline_beginLine line) hstart
      (fun h : false = true => nomatch h) hlooked
  have hscanline : here.scheduler.scanline = line := by
    rw [hplayed, scanline_play hstart, scanline_beginLine]
  refine ⟨hscanline, hsenses.late_le, hsenses.low_iff, hsenses.current_iff, fun hsteal => ?_⟩
  refine lateness_eq_zero fun quarters hmem => ?_
  have htiming : before.scheduler.timing.cycleStealing = false := by
    rw [board.timing_lineEnd, hsteal]
  refine before.steal_not_mem_lineMoves line (board.activeGun? gun) htiming quarters ?_
  rw [hline]
  exact List.mem_append_left _ hmem

end

/-! ## A line with nothing before the display -/

section

variable [SoundChip σ] {board : Board μ σ} {gun : Option Lightgun} {limit : Nat}

theorem turnsTo_of_le (h : limit ≤ board.scheduler.cycles) : board.turnsTo gun limit = [] := by
  rw [turnsTo, Nat.sub_eq_zero_of_le h, Nat.zero_mul]
  rfl

theorem runTo_of_le (h : limit ≤ board.scheduler.cycles) :
    board.runTo gun limit = (false, board) := by
  rw [runTo, Nat.sub_eq_zero_of_le h, Nat.zero_mul]
  rfl

theorem exists_turnsTo (h : board.scheduler.cycles < limit) :
    ∃ turns, board.turnsTo gun limit = board.turn gun :: turns := by
  have hfuel : (limit - board.scheduler.cycles) * addressCount ≠ 0 :=
    Nat.mul_ne_zero (Nat.sub_ne_zero_of_lt h) (by decide)
  obtain ⟨fuel, hfuel⟩ := Nat.exists_eq_succ_of_ne_zero hfuel
  rw [turnsTo, hfuel, turnsFor, if_pos h]
  exact ⟨_, rfl⟩

variable [DisplayChip μ]

/-- Where the horizontal blank takes no time, the first instruction of a line follows the display's
charge. -/
theorem exists_lineMoves_of_no_blank (hblank : board.scheduler.timing.hblank = 0)
    (hsteal : board.scheduler.timing.cycleStealing = true) {line : Nat} {begun : Board μ σ}
    (hbegun : (board.beginLine line).strobe gun = begun)
    {quarters : Nat}
    (hcost : (DisplayChip.render begun.display line begun.bus.memory).1.cycles = quarters)
    (hroom : (begun.drawLine line).scheduler.cycles < lineCycles) :
    ∃ later, board.lineMoves line gun =
      [.start, .strobe, .render, .steal quarters, .tell (quarters / 4)] ++
        .instruction :: later := by
  have hle : board.scheduler.timing.hblank ≤ begun.scheduler.cycles := hblank ▸ Nat.zero_le _
  have hturns : board.firstTurns line gun = [] := by
    rw [firstTurns, hbegun, turnsTo_of_le hle]
  have hhalf : board.firstHalf line gun = (false, begun) := by
    rw [firstHalf, hbegun, runTo_of_le hle]
  have hstolen : begun.scheduler.timing.cycleStealing = true := by
    rw [← hbegun, scheduler_strobe, timing_beginLine, hsteal]
  obtain ⟨turns, hsecond⟩ :
      ∃ turns, board.secondTurns line gun = (begun.drawLine line).turn gun :: turns := by
    rw [secondTurns, hhalf, if_neg Bool.false_ne_true]
    exact exists_turnsTo hroom
  have hdrawn : begun.drawMoves line = [.render, .steal quarters, .tell (quarters / 4)] := by
    rw [drawMoves, if_pos hstolen, hcost]
  have hparts (turn : Turn μ σ) (rest : List (Turn μ σ)) (close : List Move) : ∃ later,
      Move.start :: .strobe :: (turnMoves ([] : List (Turn μ σ)) ++
          ([.render, .steal quarters, .tell (quarters / 4)] ++
            (turnMoves (turn :: rest) ++ close))) =
        [.start, .strobe, .render, .steal quarters, .tell (quarters / 4)] ++
          .instruction :: later :=
    ⟨[.tell turn.cycles, .strobe, .takeWait] ++ turnMoves rest ++ close, by simp [turnMoves]⟩
  rw [lineMoves_eq, hturns, hhalf, hsecond, hdrawn]
  exact hparts _ _ _

end

/-- A display that charges the same for every line. -/
structure FlatRate where
  cost : Nat

instance : DisplayChip FlatRate where
  reset chip := chip
  render chip _ _ := ({ cycles := chip.cost }, chip)

/-- A board whose display draws before any instruction of a line and charges 300 for it. -/
def flatRateBoard : Board FlatRate SilentSound where
  bus := { tia := {}, pokey := {} }
  display := ⟨300⟩
  scheduler := { timing := { hblank := 0, lightgun := true } }

/-- The counter is at 300, and the sensor shows what the gun saw at zero. -/
theorem sensor_shows_flatRate :
    let gun : Lightgun := { line := 1, cycle := .ofFloat 100 }
    let earlier : List Move := [.start, .strobe, .render, .steal 300, .tell 75]
    let here := flatRateBoard.during gun 1 earlier
    flatRateBoard.bus.Modest ∧ flatRateBoard.activeGun? gun = some gun ∧
      (∃ later, flatRateBoard.movesIn gun 1 = earlier ++ .instruction :: later) ∧
      here.scheduler.cycles = 300 ∧ (here.SensorLow ↔ gun.sees 1 0 = true) := by
  intro gun earlier here
  have hmodest : flatRateBoard.bus.Modest :=
    ⟨fun cartridge hmem => absurd hmem (Option.not_mem_none cartridge),
      fun boot hmem => absurd hmem (Option.not_mem_none boot)⟩
  have hgun : flatRateBoard.activeGun? gun = some gun := by
    simp [activeGun?, flatRateBoard, Memory.dmaEnabled]
  let before := flatRateBoard.lineEnd gun 0
  have hbefore : before.scheduler = { flatRateBoard.scheduler with stats := {} } :=
    flatRateBoard.scheduler_beginFrame _
  have hbegun : ((before.beginLine 1).strobe (some gun)).scheduler.cycles = 0 := by
    have hzero : before.scheduler.cycles % lineCycles = 0 := by rw [hbefore]; rfl
    rw [scheduler_strobe, cycles_beginLine_eq, hzero, ite_self]
  have hroom : (((before.beginLine 1).strobe (some gun)).drawLine 1).scheduler.cycles = 300 := by
    rw [cycles_drawLine, hbegun, scheduler_strobe, timing_beginLine]
    rfl
  have hcost : (DisplayChip.render ((before.beginLine 1).strobe (some gun)).display 1
      ((before.beginLine 1).strobe (some gun)).bus.memory).1.cycles = 300 := rfl
  obtain ⟨later, hlater⟩ :=
    exists_lineMoves_of_no_blank rfl rfl rfl hcost (by rw [hroom]; decide)
  have hmoves : flatRateBoard.movesIn gun 1 = earlier ++ .instruction :: later := by
    rw [movesIn, hgun]
    exact hlater
  have hcycles : here.scheduler.cycles = 300 := by
    have hcharged : here.scheduler.cycles =
        ((before.beginLine 1).strobe (flatRateBoard.activeGun? gun)).scheduler.cycles + 300 := rfl
    rw [hcharged, hgun, hbegun]
  obtain ⟨-, -, hlow, -⟩ := sensor_shows hmodest hgun hmoves
  refine ⟨hmodest, hgun, ⟨later, hmoves⟩, hcycles, ?_⟩
  rw [hlow, hcycles]
  rfl

end Board
end Console7800
