import Console7800.Counters
import Console7800.Proofs.Board.Ledger

/-!
# When a counter goes over

A frame has a result exactly if both counters of quarter-cycles are in range at the end of each of
its lines (`runFrame?_eq`), and there they are as large as an addition makes them in the line
(`le_runLine_of_prefix`). With the stand-in display chip the sum of its charges is its price times
the lines that are charged (`charged_runLines`), and a line that is charged goes past the horizontal
blank by the price and by one instruction at most. So a frame cannot fail if neither
`hblank + 27 + price` nor the price of all its lines reaches the limit (`inRange_lineEnd`).
-/

namespace Console7800

theorem Charge.total_le_of_prefix {entries charges : List Charge} (h : entries <+: charges) :
    total entries ≤ total charges := by
  obtain ⟨rest, rfl⟩ := h
  rw [total_append]
  exact Nat.le_add_right ..

theorem Scheduler.inRange_iff {scheduler : Scheduler} :
    scheduler.inRange = true ↔
      scheduler.cycles < counterLimit ∧ scheduler.stats.dmaCycles < counterLimit := by
  simp [inRange]

/-- The chip asks its price for a line or nothing, and counts the lines that it asks it for. -/
theorem IdleDisplay.render_cases (chip : IdleDisplay) (memory : Memory) :
    ∃ charged ≤ 1, (chip.render memory).1.cycles = charged * chip.cost ∧
      (chip.render memory).2 = { chip with lines := chip.lines + charged } := by
  unfold IdleDisplay.render
  split
  · exact ⟨1, Nat.le_refl 1, (Nat.one_mul _).symm, rfl⟩
  · exact ⟨0, Nat.zero_le 1, (Nat.zero_mul _).symm, rfl⟩

namespace Board

variable {μ σ : Type} (board : Board μ σ)

/-! ## What is charged -/

/-- The display chip, and what it has charged in the frame. -/
def tab : μ × Nat := (board.display, board.scheduler.stats.dmaCycles)

@[simp] theorem tab_strobe (gun : Option Lightgun) : (board.strobe gun).tab = board.tab := by
  cases gun <;> rfl

@[simp] theorem tab_advanceTimer (cycles : Nat) : (board.advanceTimer cycles).tab = board.tab := rfl

@[simp] theorem tab_takeWait : board.takeWait.2.tab = board.tab := by
  unfold takeWait
  split
  split
  · split <;> rfl
  · rfl

@[simp] theorem tab_beginLine (line : Nat) : (board.beginLine line).tab = board.tab := by
  unfold beginLine mapScheduler
  dsimp only
  repeat' split
  all_goals rfl

@[simp] theorem tab_halt : board.halt.tab = board.tab := by
  unfold halt
  split <;> rfl

theorem tab_chargeDisplay (cycles : Nat) :
    (board.chargeDisplay cycles).tab =
      (board.display, board.scheduler.stats.dmaCycles +
        if board.scheduler.timing.cycleStealing then cycles else 0) := by
  unfold chargeDisplay
  split <;> rfl

section

variable [SoundChip σ]

@[simp] theorem tab_step : board.step.2.tab = board.tab := rfl

@[simp] theorem tab_interrupt : board.interrupt.tab = board.tab := rfl

@[simp] theorem tab_clockSound (pokey : Bool) : (board.clockSound pokey).tab = board.tab := rfl

@[simp] theorem tab_stepWatched (gun : Option Lightgun) :
    (board.stepWatched gun).2.tab = board.tab := by
  simp [stepWatched]

@[simp] theorem tab_runTo (gun : Option Lightgun) (limit : Nat) :
    (board.runTo gun limit).2.tab = board.tab := by
  have hloop := loop_runTo gun limit board
  generalize board.runTo gun limit = result at hloop
  induction hloop with
  | reached => rfl
  | @waits board after _ ht =>
    have hstep := board.tab_stepWatched gun
    rwa [ht] at hstep
  | @next board after _ _ ht _ ih =>
    have hstep := board.tab_stepWatched gun
    rw [ht] at hstep
    exact ih.trans hstep

@[simp] theorem tab_firstHalf (line : Nat) (gun : Option Lightgun) :
    (board.firstHalf line gun).2.tab = board.tab := by
  simp [firstHalf]

@[simp] theorem tab_closeLine (second : Bool × Board μ σ) (gun : Option Lightgun) (pokey : Bool) :
    (closeLine second gun pokey).tab = second.2.tab := by
  unfold closeLine
  split <;> simp

variable [DisplayChip μ]

omit [SoundChip σ] in
theorem total_displayCharges (line : Nat) :
    Charge.total (board.displayCharges line) =
      if board.scheduler.timing.cycleStealing then
        (DisplayChip.render board.display line board.bus.memory).1.cycles
      else 0 := by
  unfold displayCharges
  split <;> rfl

theorem tab_drawLine (line : Nat) :
    (board.drawLine line).tab =
      ((DisplayChip.render board.display line board.bus.memory).2,
        board.scheduler.stats.dmaCycles + Charge.total (board.displayCharges line)) := by
  rw [total_displayCharges]
  unfold drawLine
  rw [tab_chargeDisplay]
  split <;> rfl

theorem tab_runLine (line : Nat) (gun : Option Lightgun) (pokey : Bool) :
    (board.runLine line gun pokey).tab =
      ((DisplayChip.render board.display line (board.firstHalf line gun).2.bus.memory).2,
        board.scheduler.stats.dmaCycles +
          Charge.total ((board.firstHalf line gun).2.displayCharges line)) := by
  have hfirst := board.tab_firstHalf line gun
  have hdrawn := (board.firstHalf line gun).2.tab_drawLine line
  rw [tab, tab, Prod.mk.injEq] at hfirst
  rw [hfirst.1, hfirst.2] at hdrawn
  rw [runLine_eq, tab_closeLine, ← hdrawn]
  unfold secondHalf
  split
  · rfl
  · exact tab_runTo ..

/-! ## Where a line ends -/

omit [SoundChip σ] [DisplayChip μ] in
theorem cycles_beginLine_lt (line : Nat) :
    (board.beginLine line).scheduler.cycles < lineCycles := by
  have hline : 0 < lineCycles := by decide
  unfold beginLine
  dsimp only
  rw [scheduler_mapScheduler]
  repeat' split
  all_goals first | exact hline | exact Nat.mod_lt _ hline

/-- No addition within a line makes the counter larger than it is at the end. -/
theorem le_runLine_of_prefix {line : Nat} {gun : Option Lightgun} (pokey : Bool)
    {entries : List Charge} (h : entries <+: board.lineCharges line gun) :
    (board.beginLine line).scheduler.cycles + Charge.total entries ≤
      (board.runLine line gun pokey).scheduler.cycles := by
  rw [cycles_runLine]
  exact Nat.add_le_add_left (Charge.total_le_of_prefix h) _

/-- A line whose first part no wait ends goes past the horizontal blank by what is charged. -/
theorem le_cycles_runLine {line : Nat} {gun : Option Lightgun} (pokey : Bool)
    (h : (board.firstHalf line gun).1 = false) :
    board.scheduler.timing.hblank +
        Charge.total ((board.firstHalf line gun).2.displayCharges line) ≤
      (board.runLine line gun pokey).scheduler.cycles := by
  have hfirst : board.scheduler.timing.hblank ≤ (board.firstHalf line gun).2.scheduler.cycles :=
    (loop_runTo gun _ _).limit_le h
  have hcounted := board.cycles_firstHalf line gun
  rw [cycles_runLine]
  simp only [lineCharges, secondCharges, Charge.total_append]
  omega

/-- Lines have a result exactly if both counters are in range at the end of each. -/
theorem runLines?_eq (gun : Option Lightgun) (pokey : Bool) (count line : Nat) :
    runLines? gun pokey count line board =
      if ∀ n < count, (runLines gun pokey (n + 1) line board).scheduler.inRange then
        some (runLines gun pokey count line board)
      else none := by
  induction count generalizing line board with
  | zero => exact (if_pos fun n hn => absurd hn (Nat.not_lt_zero n)).symm
  | succ count ih =>
    have hone : runLines gun pokey (0 + 1) line board = board.runLine line gun pokey := by
      rw [runLines, runLines]
    have hnext (n : Nat) : runLines gun pokey (n + 1) line board =
        runLines gun pokey n (line + 1) (board.runLine line gun pokey) := by
      rw [runLines]
    have hall : (∀ n < count + 1, (runLines gun pokey (n + 1) line board).scheduler.inRange) ↔
        (board.runLine line gun pokey).scheduler.inRange ∧
          ∀ n < count, (runLines gun pokey (n + 1) (line + 1)
            (board.runLine line gun pokey)).scheduler.inRange := by
      rw [Nat.forall_lt_succ_left, hone]
      simp only [hnext]
    have hstep : runLines? gun pokey (count + 1) line board =
        if (board.runLine line gun pokey).scheduler.inRange then
          runLines? gun pokey count (line + 1) (board.runLine line gun pokey)
        else none := rfl
    rw [hstep, ih, hnext]
    by_cases hin : ∀ n < count + 1, (runLines gun pokey (n + 1) line board).scheduler.inRange
    · rw [if_pos hin, if_pos (hall.1 hin).1, if_pos (hall.1 hin).2]
    · rw [if_neg hin]
      split
      · exact if_neg fun hrest => hin (hall.2 ⟨‹_›, hrest⟩)
      · rfl

/-- The board of a frame after `count` lines. -/
def lineEnd (board : Board μ σ) (gun : Lightgun) (count : Nat) : Board μ σ :=
  runLines (board.activeGun? gun) board.bus.pokeyActive count 1
    (board.beginFrame board.bus.pokeyActive)

theorem lineEnd_succ (gun : Lightgun) (count : Nat) :
    board.lineEnd gun (count + 1) =
      (board.lineEnd gun count).runLine (1 + count) (board.activeGun? gun)
        board.bus.pokeyActive :=
  runLines_succ ..

theorem timing_lineEnd (gun : Lightgun) (count : Nat) :
    (board.lineEnd gun count).scheduler.timing = board.scheduler.timing := by
  rw [lineEnd, timing_runLines, scheduler_beginFrame]

theorem runFrame_eq_lineEnd (gun : Lightgun) :
    board.runFrame gun =
      (board.lineEnd gun board.scheduler.timing.region.scanlines).endFrame := rfl

theorem runFrame?_eq (gun : Lightgun) :
    board.runFrame? gun =
      if ∀ n < board.scheduler.timing.region.scanlines,
          (board.lineEnd gun (n + 1)).scheduler.inRange then
        some (board.runFrame gun)
      else none := by
  unfold runFrame? lineEnd
  dsimp only
  rw [runLines?_eq]
  split <;> rfl

end

/-! ## The stand-in display chip -/

section

variable {σ : Type} (board : Board IdleDisplay σ)

/-- What the display chip takes from the processor on a line that is charged. -/
def price : Nat := if board.scheduler.timing.cycleStealing then board.display.cost else 0

/-- What `charged` lines change: the number that the chip keeps, and the sum of its charges. -/
structure Charged (charged : Nat) (before after : Board IdleDisplay σ) : Prop where
  timing : after.scheduler.timing = before.scheduler.timing
  cost : after.display.cost = before.display.cost
  lines : after.display.lines = before.display.lines + charged
  dmaCycles : after.scheduler.stats.dmaCycles =
    before.scheduler.stats.dmaCycles + charged * before.price

theorem Charged.price {charged : Nat} {before after : Board IdleDisplay σ}
    (h : Charged charged before after) : after.price = before.price := by
  rw [Board.price, Board.price, h.timing, h.cost]

theorem Charged.trans {first second : Nat} {before middle after : Board IdleDisplay σ}
    (h₁ : Charged first before middle) (h₂ : Charged second middle after) :
    Charged (first + second) before after := by
  refine ⟨h₂.timing.trans h₁.timing, h₂.cost.trans h₁.cost, ?_, ?_⟩
  · rw [h₂.lines, h₁.lines, Nat.add_assoc]
  · rw [h₂.dmaCycles, h₁.dmaCycles, h₁.price, Nat.add_mul, Nat.add_assoc]

variable [SoundChip σ]

/-- A line is charged once or not at all. -/
theorem charged_runLine (line : Nat) (gun : Option Lightgun) (pokey : Bool) :
    ∃ charged ≤ 1, Charged charged board (board.runLine line gun pokey) ∧
      Charge.total ((board.firstHalf line gun).2.displayCharges line) = charged * board.price := by
  have hfirst := board.tab_firstHalf line gun
  have hmiddle := board.timing_firstHalf line gun
  have htab := board.tab_runLine line gun pokey
  have htiming := board.timing_runLine line gun pokey
  generalize (board.firstHalf line gun).2 = middle at hfirst hmiddle htab ⊢
  generalize board.runLine line gun pokey = after at htab htiming ⊢
  obtain ⟨charged, hle, hcycles, hchip⟩ := board.display.render_cases middle.bus.memory
  have htotal : Charge.total (middle.displayCharges line) = charged * board.price := by
    rw [total_displayCharges, hmiddle, (Prod.mk.inj hfirst).1, price]
    split
    · exact hcycles
    · exact (Nat.mul_zero charged).symm
  rw [htotal] at htab
  obtain ⟨hdrawn, hsum⟩ := Prod.mk.inj htab
  have hafter : after.display = { board.display with lines := board.display.lines + charged } :=
    hdrawn.trans hchip
  refine ⟨charged, hle, ⟨htiming, ?_, ?_, hsum⟩, htotal⟩
  · rw [hafter]
  · rw [hafter]

theorem charged_runLines (gun : Option Lightgun) (pokey : Bool) (count line : Nat) :
    ∃ charged ≤ count, Charged charged board (runLines gun pokey count line board) := by
  induction count generalizing line board with
  | zero => exact ⟨0, Nat.le_refl 0, rfl, rfl, rfl, by rw [Nat.zero_mul]; rfl⟩
  | succ count ih =>
    obtain ⟨first, hfirst, hline, -⟩ := board.charged_runLine line gun pokey
    obtain ⟨rest, hrest, hlines⟩ := ih (board.runLine line gun pokey) (line + 1)
    rw [runLines]
    exact ⟨first + rest, by omega, hline.trans hlines⟩

theorem display_beginFrame (pokey : Bool) :
    (board.beginFrame pokey).display = board.display := by
  unfold beginFrame
  split <;> rfl

variable (gun : Lightgun)

theorem charged_lineEnd (count : Nat) :
    ∃ charged ≤ count,
      (board.lineEnd gun count).display.cost = board.display.cost ∧
        (board.lineEnd gun count).price = board.price ∧
        (board.lineEnd gun count).display.lines = board.display.lines + charged ∧
        (board.lineEnd gun count).scheduler.stats.dmaCycles = charged * board.price := by
  let start := board.beginFrame board.bus.pokeyActive
  have hscheduler : start.scheduler = { board.scheduler with stats := {} } :=
    board.scheduler_beginFrame _
  have hdisplay : start.display = board.display := board.display_beginFrame _
  have hprice : start.price = board.price := by
    rw [price, price, hscheduler, hdisplay]
  obtain ⟨charged, hle, hcharged⟩ :=
    start.charged_runLines (board.activeGun? gun) board.bus.pokeyActive count 1
  refine ⟨charged, hle, ?_, hcharged.price.trans hprice, ?_, ?_⟩
  · exact hcharged.cost.trans (congrArg (·.cost) hdisplay)
  · exact hcharged.lines.trans (congrArg (·.lines + charged) hdisplay)
  · refine hcharged.dmaCycles.trans ?_
    rw [hscheduler, hprice]
    exact Nat.zero_add _

/-- The counter at the end of a line: it starts below 454, an instruction may reach over the
horizontal blank or over the end of the line, and the price comes on top of the first. -/
theorem cycles_lineEnd_le (count : Nat) :
    (board.lineEnd gun (count + 1)).scheduler.cycles ≤
      max 481 (max 453 (board.scheduler.timing.hblank + 27) + board.price) := by
  let before := board.lineEnd gun count
  have hmost := before.cycles_runLine_le (1 + count) (board.activeGun? gun) board.bus.pokeyActive
  obtain ⟨-, -, -, hprice, -⟩ := board.charged_lineEnd gun count
  obtain ⟨charged, hle, -, htotal⟩ :=
    before.charged_runLine (1 + count) (board.activeGun? gun) board.bus.pokeyActive
  have hbegin := before.cycles_beginLine_lt (1 + count)
  have hcharge : charged * before.price ≤ board.price := by
    rw [hprice]
    exact Nat.le_trans (Nat.mul_le_mul_right _ hle) (Nat.le_of_eq (Nat.one_mul _))
  rw [htotal, show before.scheduler.timing = _ from board.timing_lineEnd gun count] at hmost
  rw [lineEnd_succ]
  show (before.runLine _ _ _).scheduler.cycles ≤ _
  simp only [lineCycles] at hbegin
  omega

/-- Where one line cannot fail and all lines together cannot, no line of a frame does. -/
theorem inRange_lineEnd (hline : board.scheduler.timing.hblank + 27 + board.price < counterLimit)
    (hlines : board.scheduler.timing.region.scanlines * board.price < counterLimit) {count : Nat}
    (hcount : count < board.scheduler.timing.region.scanlines) :
    (board.lineEnd gun (count + 1)).scheduler.inRange := by
  have hmost := board.cycles_lineEnd_le gun count
  obtain ⟨charged, hle, -, -, -, hsum⟩ := board.charged_lineEnd gun (count + 1)
  rw [Scheduler.inRange_iff]
  constructor
  · have hprice : 2 * board.price < counterLimit := by
      refine Nat.lt_of_le_of_lt (Nat.mul_le_mul_right _ ?_) hlines
      cases board.scheduler.timing.region <;> decide
    unfold counterLimit at *
    omega
  · rw [hsum]
    exact Nat.lt_of_le_of_lt (Nat.mul_le_mul_right _ (by omega)) hlines

end

end Board
end Console7800
