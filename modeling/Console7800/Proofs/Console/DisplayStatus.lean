import Console7800.Proofs.Board.Instants
import Console7800.Proofs.Console.Shadows

/-!
# The status of the display

Lines count from 1, and the status changes on two lines of a frame: it is cleared on the first line
of the display area and set on the last. Nothing else changes it, so a line tells what it shows, but
for the lines before the display: there it shows what the frame before has left
(`Board.status_lineEnd`). A reset leaves it clear, and every frame leaves it set
(`Console.status_shows`).
-/

namespace Console7800

/-! ## Areas -/

/-- What the status shows on a line, if it showed `before` when the frame began. -/
def Area.statusOn (area : Area) (before : UInt8) (line : Nat) : UInt8 :=
  if line < area.top then before else if line < area.bottom then 0 else Board.blankStatus

theorem Area.statusOn_succ {area : Area} (h : area.top < area.bottom) (before : UInt8)
    (line : Nat) :
    area.statusOn before (line + 1) =
      if line + 1 = area.top then 0
      else if line + 1 = area.bottom then Board.blankStatus
      else area.statusOn before line := by
  unfold statusOn
  by_cases htop : line + 1 = area.top
  · rw [if_neg (by omega), if_pos (by omega), if_pos htop]
  rw [if_neg htop]
  by_cases hbottom : line + 1 = area.bottom
  · rw [if_neg (by omega), if_neg (by omega), if_pos hbottom]
  have htop' : line + 1 < area.top ↔ line < area.top := by omega
  have hbottom' : line + 1 < area.bottom ↔ line < area.bottom := by omega
  simp only [if_neg hbottom, htop', hbottom']

/-- The display area lies within the frame, after its first line. -/
theorem Region.displayArea_within (region : Region) :
    1 < region.displayArea.top ∧ region.displayArea.top < region.displayArea.bottom ∧
      region.displayArea.bottom ≤ region.scanlines := by
  cases region <;> decide

/-! ## Frames of the board -/

namespace Board

variable {μ σ : Type} {board : Board μ σ}

/-- What the display status shows. -/
def status (board : Board μ σ) : UInt8 := board.bus.memory.read displayStatus

variable [SoundChip σ] [DisplayChip μ]

/-- On a line that has started the status shows what the line tells. -/
theorem status_play {area : Area} (harea : board.scheduler.timing.region.displayArea = area)
    (hlt : area.top < area.bottom) (hmodest : board.bus.Modest) {first : UInt8} {count : Nat}
    (h : board.status = area.statusOn first count) {moves : List Move}
    (hmoves : Move.start ∉ moves) (gun : Option Lightgun) (pokey : Bool) :
    (board.play (count + 1) gun pokey (.start :: moves)).status =
      area.statusOn first (count + 1) := by
  have hbegun := hmodest.evolves (board.evolves_beginLine (count + 1))
  have hshows : ∀ move ∈ moves, move.shows? ≠ some displayStatus := by
    intro move hmem
    cases move with
    | start => exact absurd hmem hmoves
    | strobe => exact fun heq => absurd (Option.some.inj heq) (by decide)
    | _ => exact nofun
  have hplayed : (board.play (count + 1) gun pokey (.start :: moves)).status =
      (board.beginLine (count + 1)).status :=
    read_play hbegun isReadOnly_displayStatus hshows
  rw [hplayed, area.statusOn_succ hlt, ← h, ← harea]
  exact board.status_beginLine (count + 1)

theorem status_lineEnd (hmodest : board.bus.Modest) (gun : Lightgun) (count : Nat) :
    (board.lineEnd gun count).status =
      board.scheduler.timing.region.displayArea.statusOn board.status count := by
  obtain ⟨hfirst, hlt, -⟩ := board.scheduler.timing.region.displayArea_within
  induction count with
  | zero =>
    have hframe (pokey : Bool) : (board.beginFrame pokey).status = board.status := by
      cases pokey <;> rfl
    rw [Area.statusOn, if_pos (by omega)]
    exact hframe _
  | succ count ih =>
    have hbefore := hmodest.evolves (board.evolves_lineEnd gun count)
    rw [← board.during_movesIn gun count.succ_pos]
    exact status_play (by rw [timing_lineEnd]) hlt hbefore ih start_not_mem _ _

theorem status_during (hmodest : board.bus.Modest) {gun : Lightgun} {line : Nat}
    (hline : 0 < line) {earlier later : List Move} {move : Move}
    (hmoves : board.movesIn gun line = earlier ++ move :: later) (hmove : move ≠ .start) :
    (board.during gun line earlier).status =
      board.scheduler.timing.region.displayArea.statusOn board.status line := by
  obtain ⟨-, hlt, -⟩ := board.scheduler.timing.region.displayArea_within
  obtain ⟨moves, rfl, hstart⟩ := start_first hmoves hmove
  obtain ⟨count, rfl⟩ := Nat.exists_eq_succ_of_ne_zero (Nat.ne_of_gt hline)
  have hbefore := hmodest.evolves (board.evolves_lineEnd gun count)
  exact status_play (by rw [timing_lineEnd]) hlt hbefore (status_lineEnd hmodest gun count)
    hstart _ _

theorem status_runFrame (hmodest : board.bus.Modest) (gun : Lightgun) :
    (board.runFrame gun).status = blankStatus := by
  obtain ⟨-, hlt, hle⟩ := board.scheduler.timing.region.displayArea_within
  have hend := status_lineEnd hmodest gun board.scheduler.timing.region.scanlines
  rw [Area.statusOn, if_neg (by omega), if_neg (by omega)] at hend
  rw [runFrame_eq_lineEnd]
  exact hend

end Board

/-! ## Controls -/

/-- The controls reach the button latches only. -/
theorem SystemBus.status_driven {σ : Type} (bus : SystemBus σ) (controls : Controls) :
    (bus.driven controls).memory.read displayStatus = bus.memory.read displayStatus := by
  refine (controls.read_applyButtons_of_ne _ _ _ _ _ ?_ ?_ ?_).trans
    (controls.read_applyButtons_of_ne _ _ _ _ _ ?_ ?_ ?_)
  all_goals decide

/-! ## Frames after a reset -/

/-- The action neither cycles the power nor restores a state. -/
def Action.Continues : Action → Prop
  | .loadCartridge _ | .reset | .loadState _ | .loadStateWarm _ => False
  | _ => True

/-- The frames that an action runs. -/
def Action.frames : Action → Nat
  | .runFrame | .runFrameWith _ => 1
  | _ => 0

namespace Console

variable {μ σ : Type} [SoundChip σ] [DisplayChip μ]

/-- A modest console after a number of frames since a reset, whatever was done between them. -/
inductive SinceReset : Nat → Console μ σ → Prop where
  | reset {console : Console μ σ} (h : console.board.bus.Modest) : SinceReset 0 console.reset
  | act {frames : Nat} {console : Console μ σ} (h : SinceReset frames console) {action : Action}
    (hcontinues : action.Continues) (hmodest : (console.perform action).board.bus.Modest) :
    SinceReset (frames + action.frames) (console.perform action)
  | plug {frames : Nat} {console : Console μ σ} (h : SinceReset frames console)
    (cart : Option HighScoreCart) : SinceReset frames { console with highScore := cart }

variable {console : Console μ σ}

theorem status_reset (h : console.board.bus.Modest) : console.reset.board.status = 0 := by
  have hpower := h.powerOnBus
  have hstart : (console.startBus false).memory.read displayStatus =
      (powerOnBus console.board.bus).memory.read displayStatus := by
    unfold startBus
    split
    · exact hpower.read_run isReadOnly_displayStatus _
    · rfl
  rw [reset, Board.status, bus_resetFor, hstart,
    (h.sameUnder_powerOnBus _ isReadOnly_displayStatus.lt_cartridgeStart).1, Memory.read_powerOn]

theorem status_runFrameWith (h : console.board.bus.Modest) (controls : Controls) :
    (console.runFrameWith controls).board.status = Board.blankStatus :=
  Board.status_runFrame (h.evolves (console.board.bus.evolves_driven controls)) console.lightgun

/-- What an action leaves in the status: a frame sets it, and nothing else touches it. -/
theorem status_perform (h : console.board.bus.Modest) {action : Action}
    (hcontinues : action.Continues) :
    (console.perform action).board.status =
      if action.frames = 0 then console.board.status else Board.blankStatus := by
  cases action with
  | loadCartridge | reset | loadState | loadStateWarm => exact absurd hcontinues id
  | setBoot | setDatabase | setControls | setQueue | aim | release => rfl
  | runFrame => exact status_runFrameWith h _
  | runFrameWith controls => exact status_runFrameWith h controls
  | read address =>
    exact congrArg (·.read displayStatus) (SystemBus.Modest.memory_read console.board.bus address)
  | write address value => exact h.read_write isReadOnly_displayStatus address value

/-- The status is clear until a frame has been run, and set from then on. -/
theorem SinceReset.status {frames : Nat} (h : SinceReset frames console) :
    console.board.bus.Modest ∧
      console.board.status = if frames = 0 then 0 else Board.blankStatus := by
  induction h with
  | @reset console h =>
    have hmodest : console.reset.board.bus.Modest := by
      rw [Console.reset, bus_resetFor]
      exact h.powerOnBus.evolves (console.evolves_startBus false)
    exact ⟨hmodest, status_reset h⟩
  | @act frames console _ action hcontinues hmodest ih =>
    refine ⟨hmodest, ?_⟩
    rw [status_perform ih.1 hcontinues, ih.2]
    by_cases hnone : action.frames = 0
    · rw [if_pos hnone, hnone, Nat.add_zero]
    · rw [if_neg hnone, if_neg (by omega)]
  | plug _ _ ih => exact ih

theorem SinceReset.play {frames : Nat} (h : SinceReset frames console) (action : Action)
    (hplays : action.Plays) (hcontinues : action.Continues) :
    SinceReset (frames + action.frames) (console.perform action) :=
  have hplugs := console.samePlugs_perform hplays
  h.act hcontinues (h.status.1.of_plugged hplugs.boot.symm hplugs.cartridge.symm)

/-- On a modest machine, in any frame after a reset, at any move on a line that has started: the
status is clear in the display area and set after it. Before it, it is clear in the first frame and
set in every later one. -/
theorem status_shows {frames : Nat} (h : SinceReset frames console) (controls : Controls)
    {line : Nat} (hline : 0 < line) {earlier later : List Board.Move} {move : Board.Move}
    (hmoves : (sample controls console.board).movesIn console.lightgun line =
      earlier ++ move :: later) (hmove : move ≠ .start) :
    let area := console.region.displayArea
    let here := (sample controls console.board).during console.lightgun line earlier
    here.bus.memory.read displayStatus =
      if line < area.top then if frames = 0 then 0 else 0x80
      else if line < area.bottom then 0 else 0x80 := by
  intro area here
  obtain ⟨hmodest, hstatus⟩ := h.status
  have hsampled : (sample controls console.board).bus.Modest :=
    hmodest.evolves (console.board.bus.evolves_driven controls)
  have hbefore : (sample controls console.board).status = if frames = 0 then 0 else 0x80 :=
    (console.board.bus.status_driven controls).trans hstatus
  have hduring := Board.status_during hsampled hline hmoves hmove
  rw [hbefore] at hduring
  exact hduring

/-- The first line of the second frame after a reset, where the display draws. -/
theorem status_shows_blankConsole :
    let console := blankConsole.runFrame
    let board := sample {} console.board
    let before := board.lineEnd console.lightgun 0
    let earlier := .start :: .strobe ::
      Board.turnMoves (before.firstTurns 1 (board.activeGun? console.lightgun))
    SinceReset 1 console ∧
      (∃ later, board.movesIn console.lightgun 1 = earlier ++ .render :: later) ∧
      (board.during console.lightgun 1 earlier).bus.memory.read displayStatus = 0x80 := by
  intro console board before earlier
  have hblank : SinceReset 0 blankConsole := by
    obtain ⟨other, hmodest, hreset⟩ := exists_blankConsole_eq
    exact hreset ▸ .reset hmodest
  have hframe : SinceReset 1 console := hblank.play .runFrame trivial trivial
  obtain ⟨later, hmoves⟩ :=
    before.exists_lineMoves_render 1 (board.activeGun? console.lightgun)
  refine ⟨hframe, ⟨later, hmoves⟩, ?_⟩
  rw [status_shows hframe {} Nat.one_pos hmoves nofun, if_pos console.region.displayArea_within.1]
  rfl

end Console
end Console7800
