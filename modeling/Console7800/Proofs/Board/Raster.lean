import Console7800.Proofs.Board.Parts

/-!
# Lines one after the other

A raster is a frame under way. `run` goes on line by line, and at the end of a frame into the next
one; what it makes of a whole frame is what `Board.runFrame` makes of it (`run_frame`).
-/

namespace Console7800

/-- What the host does between two frames: it works on the bus and aims the light gun. -/
structure HostTurn (σ : Type) where
  onBus : SystemBus σ → SystemBus σ
  gun : Lightgun

/-- A board before a line, and what was settled when the frame began. -/
structure Raster (μ σ : Type) where
  board : Board μ σ
  /-- The line that is drawn next. -/
  line : Nat
  gun : Option Lightgun
  pokey : Bool

namespace Raster

variable {μ σ : Type}

/-- Quarter-cycles into the line before. -/
def counter (raster : Raster μ σ) : Nat := raster.board.scheduler.cycles

def timing (raster : Raster μ σ) : Timing := raster.board.scheduler.timing

@[simp] theorem counter_mk (board : Board μ σ) (line : Nat) (gun : Option Lightgun)
    (pokey : Bool) : (mk board line gun pokey).counter = board.scheduler.cycles := rfl

@[simp] theorem timing_mk (board : Board μ σ) (line : Nat) (gun : Option Lightgun)
    (pokey : Bool) : (mk board line gun pokey).timing = board.scheduler.timing := rfl

variable [SoundChip σ]

/-- Where a frame begins. -/
def ofFrame (board : Board μ σ) (gun : Lightgun) : Raster μ σ where
  board := board.beginFrame board.bus.pokeyActive
  line := 1
  gun := board.activeGun? gun
  pokey := board.bus.pokeyActive

@[simp] theorem counter_ofFrame (board : Board μ σ) (gun : Lightgun) :
    (ofFrame board gun).counter = board.scheduler.cycles := by
  unfold ofFrame counter Board.beginFrame
  split <;> rfl

@[simp] theorem timing_ofFrame (board : Board μ σ) (gun : Lightgun) :
    (ofFrame board gun).timing = board.scheduler.timing := by
  unfold ofFrame timing Board.beginFrame
  split <;> rfl

variable [DisplayChip μ]

/-- The board after the line that is drawn next. -/
def drawn (raster : Raster μ σ) : Board μ σ :=
  raster.board.runLine raster.line raster.gun raster.pokey

/-- Draw a line. After the last one of a frame it is the host's turn, and the next frame begins. -/
def next (turn : HostTurn σ) (raster : Raster μ σ) : Raster μ σ :=
  if raster.line < raster.timing.region.scanlines then
    { raster with board := raster.drawn, line := raster.line + 1 }
  else ofFrame (raster.drawn.endFrame.mapBus turn.onBus) turn.gun

/-- Draw `count` lines. Where the line at `i` is the last of a frame, `turns i` follows. -/
def run (turns : Nat → HostTurn σ) : Nat → Raster μ σ → Raster μ σ
  | 0, raster => raster
  | count + 1, raster => (raster.run turns count).next (turns count)

theorem counter_next (turn : HostTurn σ) (raster : Raster μ σ) :
    (raster.next turn).counter = raster.drawn.scheduler.cycles := by
  unfold next
  split
  · rw [counter_mk]
  · rw [counter_ofFrame, Board.scheduler_mapBus, Board.cycles_endFrame]

@[simp] theorem timing_next (turn : HostTurn σ) (raster : Raster μ σ) :
    (raster.next turn).timing = raster.timing := by
  have hline : raster.drawn.scheduler.timing = raster.timing := Board.timing_runLine _ _ _ _
  unfold next
  split
  · rw [timing_mk, hline]
  · rw [timing_ofFrame, Board.scheduler_mapBus, Board.timing_endFrame, hline]

@[simp] theorem timing_run (turns : Nat → HostTurn σ) (count : Nat) (raster : Raster μ σ) :
    (raster.run turns count).timing = raster.timing := by
  induction count with
  | zero => rfl
  | succ count ih => rw [run, timing_next, ih]

theorem run_lines (turns : Nat → HostTurn σ) {count : Nat} {raster : Raster μ σ}
    (h : raster.line + count ≤ raster.timing.region.scanlines) :
    raster.run turns count =
      { raster with
        board := Board.runLines raster.gun raster.pokey count raster.line raster.board
        line := raster.line + count } := by
  induction count with
  | zero => rfl
  | succ count ih =>
    rw [run, ih (by omega), next, if_pos, drawn]
    · simp only [Board.runLines_succ, Nat.add_assoc]
    · simp only [timing, Board.timing_runLines]
      simp only [timing] at h
      omega

/-- As many lines as a frame has are a frame, and the next one is about to begin. -/
theorem run_frame (turns : Nat → HostTurn σ) {lines : Nat} {board : Board μ σ} {gun : Lightgun}
    (h : board.scheduler.timing.region.scanlines = lines + 1) :
    (ofFrame board gun).run turns (lines + 1) =
      ofFrame ((board.runFrame gun).mapBus (turns lines).onBus) (turns lines).gun := by
  have hlines : (ofFrame board gun).timing.region.scanlines = lines + 1 := by
    rw [timing_ofFrame, h]
  have hline : (ofFrame board gun).line = 1 := rfl
  rw [run, run_lines turns (by omega), next, if_neg, drawn, ← Board.runLines_succ,
    Board.runFrame, h]
  · rfl
  · simp only [timing, Board.timing_runLines]
    simp only [timing] at hlines
    omega

end Raster
end Console7800
