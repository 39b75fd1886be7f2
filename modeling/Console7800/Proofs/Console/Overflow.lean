import Console7800.Proofs.Board.Overflow
import Console7800.Proofs.Console.Timing

/-!
# Which settings let a counter go over

The horizontal blank of a database and the price of a configuration reach the scheduler as they are
set: nothing between the text and the scanline loop limits them. So a frame of a standard console
has a result for every program if the settings are small, and there are settings with which a
program can make a counter go over (`counters_played`).
-/

namespace Console7800

namespace Board

variable {σ : Type} [SoundChip σ] (board : Board IdleDisplay σ) (gun : Lightgun)

/-- After `count` lines of a frame comes one that is charged and whose first part no wait ends. -/
def GoesOn (count : Nat) : Prop :=
  let first := (board.lineEnd gun count).firstHalf (1 + count) (board.activeGun? gun)
  first.1 = false ∧ first.2.bus.memory.dmaEnabled ∧ first.2.bus.memory.inBlank = false

theorem GoesOn.le_cycles {count : Nat} (h : board.GoesOn gun count) :
    board.scheduler.timing.hblank + board.price ≤
      (board.lineEnd gun (count + 1)).scheduler.cycles := by
  obtain ⟨-, -, -, hprice, -⟩ := board.charged_lineEnd gun count
  have htiming := board.timing_lineEnd gun count
  unfold GoesOn at h
  rw [lineEnd_succ]
  generalize board.lineEnd gun count = before at h hprice htiming ⊢
  obtain ⟨hgoes, hdma, hblank⟩ := h
  have hleast := before.le_cycles_runLine board.bus.pokeyActive hgoes
  have hmiddle := before.tab_firstHalf (1 + count) (board.activeGun? gun)
  have hkept := before.timing_firstHalf (1 + count) (board.activeGun? gun)
  generalize (before.firstHalf (1 + count) (board.activeGun? gun)).2 = middle
    at hdma hblank hleast hmiddle hkept
  have hasked : (middle.display.render middle.bus.memory).1.cycles = before.display.cost := by
    unfold IdleDisplay.render
    rw [hdma, hblank, (Prod.mk.inj hmiddle).1]
    rfl
  have htotal : Charge.total (middle.displayCharges (1 + count)) = before.price := by
    rw [total_displayCharges, hkept, price]
    split
    · exact hasked
    · rfl
  rwa [htotal, hprice, htiming] at hleast

/-- What a frame counts, and when it has a result. -/
theorem runFrame?_cases :
    ∃ charged ≤ board.scheduler.timing.region.scanlines,
      (board.runFrame gun).display.cost = board.display.cost ∧
        (board.runFrame gun).display.lines = board.display.lines + charged ∧
        (board.runFrame gun).scheduler.stats.dmaCycles = charged * board.price ∧
        (board.scheduler.timing.hblank + 27 + board.price < counterLimit →
          board.scheduler.timing.region.scanlines * board.price < counterLimit →
            board.runFrame? gun = some (board.runFrame gun)) ∧
        (counterLimit ≤ charged * board.price → board.runFrame? gun = none) ∧
        ∀ count < board.scheduler.timing.region.scanlines, board.GoesOn gun count →
          counterLimit ≤ board.scheduler.timing.hblank + board.price →
            board.runFrame? gun = none := by
  let lines := board.scheduler.timing.region.scanlines
  obtain ⟨charged, hle, hcost, -, hlines, hsum⟩ := board.charged_lineEnd gun lines
  have hfails {count : Nat} (hcount : count < lines)
      (hover : ¬ (board.lineEnd gun (count + 1)).scheduler.inRange) :
      board.runFrame? gun = none := by
    rw [runFrame?_eq, if_neg fun hall => hover (hall count hcount)]
  refine ⟨charged, hle, hcost, hlines, hsum, fun hline hall => ?_, fun hover => ?_,
    fun count hcount hgoes hover => hfails hcount ?_⟩
  · rw [runFrame?_eq, if_pos fun count hcount => board.inRange_lineEnd gun hline hall hcount]
  · -- the last line is the first to fail at the latest
    obtain ⟨last, hlast⟩ : ∃ last, lines = last + 1 := by
      show ∃ last, board.scheduler.timing.region.scanlines = last + 1
      cases board.scheduler.timing.region <;> exact ⟨_, rfl⟩
    refine hfails (by omega : last < lines) ?_
    rw [Scheduler.inRange_iff, ← hlast, hsum]
    exact fun hin => absurd hin.2 (Nat.not_lt.2 hover)
  · rw [Scheduler.inRange_iff]
    exact fun hin => absurd (Nat.lt_of_le_of_lt (hgoes.le_cycles) hin.1) (Nat.not_lt.2 hover)

end Board

namespace Console

variable {σ : Type} [SoundChip σ] {console : Console IdleDisplay σ}

/-! ## The price -/

theorem cost_runFrameWith (console : Console IdleDisplay σ) (controls : Controls) :
    (console.runFrameWith controls).board.display.cost = console.board.display.cost := by
  obtain ⟨charged, -, hcost, -⟩ :=
    (sample controls console.board).runFrame?_cases console.lightgun
  exact hcost

theorem cost_runFramesWith (controls : Controls) (count : Nat) (console : Console IdleDisplay σ) :
    (runFramesWith controls count console).board.display.cost = console.board.display.cost := by
  induction count generalizing console with
  | zero => rfl
  | succ count ih => exact (ih _).trans (console.cost_runFrameWith controls)

theorem cost_resetFor (console : Console IdleDisplay σ) (loadingState : Bool) :
    (console.resetFor loadingState).board.display.cost = console.board.display.cost := by
  rw [resetFor_eq_start]
  rfl

theorem cost_loadState (console : Console IdleDisplay σ) (data : Bytes) :
    (console.loadState data).2.board.display.cost = console.board.display.cost := by
  unfold loadState
  split
  · rfl
  · rw [restore_eq]
    exact console.cost_resetFor true

/-- No action sets the price. -/
theorem cost_perform (console : Console IdleDisplay σ) (action : Action) :
    (console.perform action).board.display.cost = console.board.display.cost := by
  cases action with
  | setBoot | setDatabase | setControls | setQueue | aim | release | read | write => rfl
  | loadCartridge data =>
    unfold perform loadCartridge
    dsimp only
    split
    · rfl
    · exact cost_resetFor _ false
  | reset => exact console.cost_resetFor false
  | runFrame => exact cost_runFrameWith _ _
  | runFrameWith controls => exact console.cost_runFrameWith controls
  | loadState data => exact console.cost_loadState data
  | loadStateWarm data =>
    unfold perform loadStateWarm
    dsimp only
    split
    · rfl
    · exact (cost_loadState _ data).trans (cost_runFramesWith _ _ console)

theorem Played.cost {start : Console IdleDisplay σ} (h : Played start console) :
    console.board.display.cost = start.board.display.cost := by
  induction h with
  | start => rfl
  | act _ _ ih => exact (cost_perform _ _).trans ih

/-! ## Frames -/

theorem runFrameWith?_eq_none {console : Console IdleDisplay σ} {controls : Controls}
    (h : (sample controls console.board).runFrame? console.lightgun = none) :
    console.runFrameWith? controls = none := by
  rw [runFrameWith?, h]
  rfl

theorem runFrameWith?_eq_some {console : Console IdleDisplay σ} {controls : Controls}
    (h : (sample controls console.board).runFrame? console.lightgun =
      some ((sample controls console.board).runFrame console.lightgun)) :
    console.runFrameWith? controls = some (console.runFrameWith controls) := by
  rw [runFrameWith?, h]
  rfl

/-- A cartridge is loaded into a console with the stand-in display chip, with any settings in the
configuration and in the database, and anything is played. The horizontal blank and the price that
apply are those that were set, and a frame charges the price for each charged line. The frame has a
result for every program if `hblank + 27` and the price of one line stay below the limit together,
and the price of all lines does. It has none if the price of the lines that are charged reaches the
limit, or if `hblank` and the price of one line do and a line is charged that no wait cuts short. -/
theorem counters_played {start console : Console IdleDisplay σ} {file : Bytes}
    {cartridge : Cartridge}
    (hstart : start.board.display = (Console.standard start.config).board.display)
    (hload : Cartridge.load file = .ok cartridge)
    (hplayed : Played (start.loadCartridge file).2 console) (controls : Controls) :
    let mounted := start.configured cartridge
    let timing := timingFor start.config (some mounted)
    let price :=
      if timing.cycleStealing then start.config.dmaCost.getD IdleDisplay.defaultCost else 0
    let after := console.runFrameWith controls
    console.board.scheduler.timing = timing ∧ timing.hblank = mounted.hblank ∧
      ∃ charged ≤ timing.region.scanlines,
        after.board.display.lines = console.board.display.lines + charged ∧
          after.board.scheduler.stats.dmaCycles = charged * price ∧
          (mounted.hblank + 27 + price < counterLimit →
            timing.region.scanlines * price < counterLimit →
              console.runFrameWith? controls = some after) ∧
          (counterLimit ≤ charged * price → console.runFrameWith? controls = none) ∧
          ∀ count < timing.region.scanlines,
            (sample controls console.board).GoesOn console.lightgun count →
              counterLimit ≤ mounted.hblank + price → console.runFrameWith? controls = none := by
  intro mounted timing price after
  let board := sample controls console.board
  have htiming : board.scheduler.timing = timing := timing_played hload hplayed
  have hcost : board.display.cost = start.config.dmaCost.getD IdleDisplay.defaultCost := by
    have hkept := hplayed.cost
    rw [loadCartridge_eq hload] at hkept
    have hmounted : (start.mounting cartridge).board.display = start.board.display := rfl
    exact hkept.trans ((cost_resetFor _ false).trans (by rw [hmounted, hstart]; rfl))
  have hprice : board.price = price := by
    rw [Board.price, htiming, hcost]
  obtain ⟨charged, hle, -, hlines, hsum, hruns, hsums, hgoes⟩ :=
    board.runFrame?_cases console.lightgun
  rw [htiming] at hle hruns hgoes
  rw [hprice] at hsum hruns hsums hgoes
  refine ⟨htiming, rfl, charged, hle, hlines, hsum, fun hline hall => ?_, fun hover => ?_,
    fun count hcount hcharged hover => ?_⟩
  · exact runFrameWith?_eq_some (hruns hline hall)
  · exact runFrameWith?_eq_none (hsums hover)
  · exact runFrameWith?_eq_none (hgoes count hcount hcharged hover)

/-- With nothing set a frame of the blank cartridge has a result. -/
theorem counters_played_blankFile :
    let console := ((Console.standard {}).loadCartridge blankFile).2
    console.runFrameWith? {} = some (console.runFrameWith {}) := by
  intro console
  have hstart : (Console.standard {}).board.display = (Console.standard {}).board.display := rfl
  have hplayed : Played ((Console.standard {}).loadCartridge blankFile).2 console := .start
  obtain ⟨-, -, charged, -, -, -, hruns, -⟩ := counters_played hstart load_blankFile hplayed {}
  exact hruns (by decide) (by decide)

end Console
end Console7800
