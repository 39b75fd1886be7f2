import Console7800.Proofs.Board.Progress
import Console7800.Proofs.Board.Raster

/-!
# The ledger of the counter

Whatever moves the counter on has an entry: an instruction, the display's time on the bus, the rest
of a line that a program waits out. A line moves the counter from where it begins by the sum of its
entries (`cycles_runLine`) and leaves it in the next line, by little (`cycles_runLine_le`). So over
any number of lines the entries add up to whole lines.
-/

namespace Console7800

/-- What the counter is moved on for. -/
inductive Charge where
  | instruction (cycles : Nat) (half : Bool)
  | display (quarters : Nat)
  | halt (quarters : Nat)
  deriving Repr, DecidableEq

namespace Charge

def quarters : Charge → Nat
  | .instruction cycles half => Cpu.charge cycles half
  | .display quarters => quarters
  | .halt quarters => quarters

/-- The display's entries are the ones that cycle stealing makes. -/
def isDisplay : Charge → Bool
  | .display _ => true
  | _ => false

def total : List Charge → Nat
  | [] => 0
  | charge :: charges => charge.quarters + total charges

@[simp] theorem total_nil : total [] = 0 := rfl

@[simp] theorem total_cons (charge : Charge) (charges : List Charge) :
    total (charge :: charges) = charge.quarters + total charges := rfl

@[simp] theorem total_append (first second : List Charge) :
    total (first ++ second) = total first + total second := by
  induction first with
  | nil => simp
  | cons charge first ih => simp [ih, Nat.add_assoc]

end Charge

namespace Board

variable {μ σ : Type} [SoundChip σ]

/-! ## The loops -/

/-- The entry of the next instruction. -/
def stepCharge (board : Board μ σ) : Charge :=
  .instruction board.step.1 board.step.2.cpu.halfCycle

/-- The entries of `runFor`. -/
def chargesFor (gun : Option Lightgun) (limit : Nat) : Nat → Board μ σ → List Charge
  | 0, _ => []
  | fuel + 1, board =>
    if board.scheduler.cycles < limit then
      board.stepCharge :: match board.stepWatched gun with
        | (true, _) => []
        | (false, board) => chargesFor gun limit fuel board
    else []

/-- The entries of `runTo`. -/
def chargesTo (board : Board μ σ) (gun : Option Lightgun) (limit : Nat) : List Charge :=
  chargesFor gun limit ((limit - board.scheduler.cycles) * addressCount) board

theorem cycles_runFor (gun : Option Lightgun) (limit fuel : Nat) (board : Board μ σ) :
    (runFor gun limit fuel board).2.scheduler.cycles =
      board.scheduler.cycles + Charge.total (chargesFor gun limit fuel board) := by
  induction fuel generalizing board with
  | zero => rfl
  | succ fuel ih =>
    have hstep : (board.stepWatched gun).2.scheduler.cycles =
        board.scheduler.cycles + board.stepCharge.quarters := board.cycles_stepWatched gun
    unfold runFor chargesFor
    split
    · rcases hturn : board.stepWatched gun with ⟨waits, after⟩
      simp only [hturn] at hstep
      cases waits with
      | true => simpa using hstep
      | false =>
        simp only [Charge.total_cons, ih, hstep]
        omega
    · rfl

theorem cycles_runTo (gun : Option Lightgun) (limit : Nat) (board : Board μ σ) :
    (board.runTo gun limit).2.scheduler.cycles =
      board.scheduler.cycles + Charge.total (board.chargesTo gun limit) :=
  cycles_runFor gun limit _ board

theorem isDisplay_of_mem_chargesFor {gun : Option Lightgun} {limit fuel : Nat}
    {board : Board μ σ} {charge : Charge} (h : charge ∈ chargesFor gun limit fuel board) :
    charge.isDisplay = false := by
  induction fuel generalizing board with
  | zero => simp [chargesFor] at h
  | succ fuel ih =>
    unfold chargesFor at h
    split at h
    · rcases List.mem_cons.1 h with rfl | h
      · rfl
      · split at h
        · simp at h
        · exact ih h
    · simp at h

/-- One instruction takes the counter past the limit by less than its own cost. -/
theorem Loop.cycles_le {gun : Option Lightgun} {limit : Nat} {board : Board μ σ}
    {result : Bool × Board μ σ} (h : Loop (·.stepWatched gun) limit board result) :
    result.2.scheduler.cycles ≤ max board.scheduler.cycles (limit + 27) := by
  have hturn : ∀ b : Board μ σ,
      (b.stepWatched gun).2.scheduler.cycles ≤ b.scheduler.cycles + 28 := by
    intro b
    rw [cycles_stepWatched]
    rcases b.step_cost with ⟨-, hmost⟩ | ⟨hcost, hhalf, -⟩
    · simp only at hmost
      omega
    · simp [hcost, hhalf, Cpu.charge]
  induction h with
  | reached h => simp only; omega
  | @waits board after h ht =>
    have := hturn board
    simp only [ht] at this ⊢
    omega
  | @next board after _ h ht _ ih =>
    have := hturn board
    simp only [ht] at this
    omega

/-- A loop that no program's wait ends goes on to its limit. -/
theorem Loop.limit_le {gun : Option Lightgun} {limit : Nat} {board : Board μ σ}
    {result : Bool × Board μ σ} (h : Loop (·.stepWatched gun) limit board result)
    (hw : result.1 = false) : limit ≤ result.2.scheduler.cycles := by
  induction h with
  | reached h => exact h
  | waits => cases hw
  | next _ _ _ ih => exact ih hw

/-! ## Lines -/

/-- The entry of a halt, if the line ends with one. -/
def closeCharges (second : Bool × Board μ σ) : List Charge :=
  if second.1 ∧ second.2.scheduler.cycles < lineCycles then
    [.halt (lineCycles - second.2.scheduler.cycles)]
  else []

/-- The entries of the first loop. -/
def firstCharges (board : Board μ σ) (line : Nat) (gun : Option Lightgun) : List Charge :=
  ((board.beginLine line).strobe gun).chargesTo gun board.scheduler.timing.hblank

theorem cycles_firstHalf (board : Board μ σ) (line : Nat) (gun : Option Lightgun) :
    (board.firstHalf line gun).2.scheduler.cycles =
      (board.beginLine line).scheduler.cycles +
        Charge.total (board.firstCharges line gun) := by
  rw [firstHalf, cycles_runTo, scheduler_strobe, firstCharges]

theorem cycles_closeLine_eq (second : Bool × Board μ σ) (gun : Option Lightgun) (pokey : Bool) :
    (closeLine second gun pokey).scheduler.cycles =
      second.2.scheduler.cycles + Charge.total (closeCharges second) := by
  rw [cycles_closeLine, closeCharges]
  by_cases hwaits : second.1
  · by_cases hlt : second.2.scheduler.cycles < lineCycles
    · simp only [hwaits, hlt, if_true, and_self, Charge.total_cons, Charge.quarters,
        Charge.total_nil]
      omega
    · simp only [hwaits, hlt, if_true, if_false, and_false, Charge.total_nil]
      omega
  · simp [hwaits]

omit [SoundChip σ] in
theorem isDisplay_of_mem_closeCharges {second : Bool × Board μ σ} {charge : Charge}
    (h : charge ∈ closeCharges second) : charge.isDisplay = false := by
  unfold closeCharges at h
  split at h
  · rw [List.mem_singleton.1 h]
    rfl
  · simp at h

variable [DisplayChip μ]

/-- The entry of the display, if it steals. -/
def displayCharges (board : Board μ σ) (line : Nat) : List Charge :=
  if board.scheduler.timing.cycleStealing then
    [.display (DisplayChip.render board.display line board.bus.memory).1.cycles]
  else []

/-- The entries of what follows the first loop. -/
def secondCharges (first : Bool × Board μ σ) (line : Nat) (gun : Option Lightgun) :
    List Charge :=
  first.2.displayCharges line ++
    if first.1 then [] else (first.2.drawLine line).chargesTo gun lineCycles

/-- The entries of a line. -/
def lineCharges (board : Board μ σ) (line : Nat) (gun : Option Lightgun) : List Charge :=
  board.firstCharges line gun ++ secondCharges (board.firstHalf line gun) line gun ++
    closeCharges (secondHalf (board.firstHalf line gun) line gun)

theorem cycles_drawLine_eq (board : Board μ σ) (line : Nat) :
    (board.drawLine line).scheduler.cycles =
      board.scheduler.cycles + Charge.total (board.displayCharges line) := by
  rw [cycles_drawLine, displayCharges]
  split <;> simp [Charge.quarters]

theorem cycles_secondHalf (first : Bool × Board μ σ) (line : Nat) (gun : Option Lightgun) :
    (secondHalf first line gun).2.scheduler.cycles =
      first.2.scheduler.cycles + Charge.total (secondCharges first line gun) := by
  unfold secondHalf secondCharges
  split
  · simp only [cycles_drawLine_eq, List.append_nil]
  · simp only [cycles_runTo, cycles_drawLine_eq, Charge.total_append]
    omega

/-- A line moves the counter from where it begins by the sum of its entries. -/
theorem cycles_runLine (board : Board μ σ) (line : Nat) (gun : Option Lightgun) (pokey : Bool) :
    (board.runLine line gun pokey).scheduler.cycles =
      (board.beginLine line).scheduler.cycles + Charge.total (board.lineCharges line gun) := by
  rw [runLine_eq, cycles_closeLine_eq, cycles_secondHalf, cycles_firstHalf]
  simp only [lineCharges, Charge.total_append]
  omega

theorem lineCycles_le_runLine (board : Board μ σ) (line : Nat) (gun : Option Lightgun)
    (pokey : Bool) : lineCycles ≤ (board.runLine line gun pokey).scheduler.cycles := by
  rw [runLine_eq, cycles_closeLine]
  split
  · omega
  · rename_i hwaits
    unfold secondHalf at hwaits ⊢
    split
    · rename_i hfirst
      simp [hfirst] at hwaits
    · rename_i hfirst
      rw [if_neg hfirst, Bool.not_eq_true] at hwaits
      exact (loop_runTo gun lineCycles _).limit_le hwaits

/-- How far a line can go: an instruction may reach over either loop's limit, and the display's time
comes on top of what the first loop ends with. -/
theorem cycles_runLine_le (board : Board μ σ) (line : Nat) (gun : Option Lightgun)
    (pokey : Bool) :
    (board.runLine line gun pokey).scheduler.cycles ≤
      max 481 (max (board.beginLine line).scheduler.cycles (board.scheduler.timing.hblank + 27) +
        Charge.total ((board.firstHalf line gun).2.displayCharges line)) := by
  have hfirst : (board.firstHalf line gun).2.scheduler.cycles ≤
      max (board.beginLine line).scheduler.cycles (board.scheduler.timing.hblank + 27) := by
    have := (loop_runTo gun board.scheduler.timing.hblank
      ((board.beginLine line).strobe gun)).cycles_le
    rwa [scheduler_strobe] at this
  have hdrawn := cycles_drawLine_eq (board.firstHalf line gun).2 line
  have hsecond : (secondHalf (board.firstHalf line gun) line gun).2.scheduler.cycles ≤
      max 481 ((board.firstHalf line gun).2.drawLine line).scheduler.cycles := by
    unfold secondHalf
    split
    · simp only
      omega
    · have := (loop_runTo gun lineCycles ((board.firstHalf line gun).2.drawLine line)).cycles_le
      simp only [lineCycles] at this ⊢
      omega
  rw [runLine_eq, cycles_closeLine]
  simp only [lineCycles]
  split <;> omega

omit [SoundChip σ] in
theorem displayCharges_eq_nil {board : Board μ σ} (line : Nat)
    (h : board.scheduler.timing.cycleStealing = false) : board.displayCharges line = [] := by
  rw [displayCharges, h]
  rfl

theorem isDisplay_of_mem_secondCharges {first : Bool × Board μ σ} {line : Nat}
    {gun : Option Lightgun} {charge : Charge}
    (hsteal : first.2.scheduler.timing.cycleStealing = false)
    (h : charge ∈ secondCharges first line gun) : charge.isDisplay = false := by
  rw [secondCharges, displayCharges_eq_nil line hsteal, List.nil_append] at h
  split at h
  · simp at h
  · exact isDisplay_of_mem_chargesFor h

theorem isDisplay_of_mem_lineCharges {board : Board μ σ} {line : Nat} {gun : Option Lightgun}
    {charge : Charge} (hsteal : board.scheduler.timing.cycleStealing = false)
    (h : charge ∈ board.lineCharges line gun) : charge.isDisplay = false := by
  rw [← board.timing_firstHalf line gun] at hsteal
  rw [lineCharges, List.mem_append, List.mem_append] at h
  rcases h with (hfirst | hsecond) | hclose
  · exact isDisplay_of_mem_chargesFor hfirst
  · exact isDisplay_of_mem_secondCharges hsteal hsecond
  · exact isDisplay_of_mem_closeCharges hclose

end Board

/-! ## Many lines -/

namespace Raster

variable {μ σ : Type} [SoundChip σ] [DisplayChip μ]

/-- The entries of the line that is drawn next. -/
def lineCharges (raster : Raster μ σ) : List Charge :=
  raster.board.lineCharges raster.line raster.gun

/-- The entries of the lines that `run` draws. -/
def charges (turns : Nat → HostTurn σ) : Nat → Raster μ σ → List Charge
  | 0, _ => []
  | count + 1, raster => raster.charges turns count ++ (raster.run turns count).lineCharges

theorem counter_next_eq (turn : HostTurn σ) {raster : Raster μ σ}
    (h : raster.timing.cycleStealing = false) :
    (raster.next turn).counter =
      raster.counter % lineCycles + Charge.total raster.lineCharges := by
  rw [counter_next, drawn, Board.cycles_runLine, Board.cycles_beginLine _ _ h, counter, lineCharges]

theorem le_counter_next (turn : HostTurn σ) (raster : Raster μ σ) :
    lineCycles ≤ (raster.next turn).counter := by
  rw [counter_next]
  exact Board.lineCycles_le_runLine _ _ _ _

theorem counter_next_le (turn : HostTurn σ) {raster : Raster μ σ}
    (hsteal : raster.timing.cycleStealing = false) (hblank : raster.timing.hblank ≤ lineCycles) :
    (raster.next turn).counter ≤ 481 := by
  obtain ⟨board, line, gun, pokey⟩ := raster
  have hmost := board.cycles_runLine_le line gun pokey
  have hcarry : board.scheduler.cycles % lineCycles < lineCycles := Nat.mod_lt _ (by decide)
  rw [timing_mk] at hsteal hblank
  rw [board.cycles_beginLine line hsteal] at hmost
  rw [← board.timing_firstHalf line gun] at hsteal
  rw [Board.displayCharges_eq_nil line hsteal, Charge.total_nil] at hmost
  rw [counter_next, drawn]
  simp only [lineCycles] at hblank hmost hcarry ⊢
  omega

/-- Time kept over `count` lines: the counter is less than one instruction into the next line, and
the entries, which are those of instructions and halts, add up to whole lines, but for what the
counter held past a line before and holds after. -/
structure KeepsTime (turns : Nat → HostTurn σ) (count : Nat) (raster : Raster μ σ) : Prop where
  le_counter : lineCycles ≤ (raster.run turns count).counter
  counter_le : (raster.run turns count).counter ≤ 481
  no_display : ∀ charge ∈ raster.charges turns count, charge.isDisplay = false
  total_eq : (Charge.total (raster.charges turns count) : Int) =
    lineCycles * count + ((raster.run turns count).counter - lineCycles) -
      raster.counter % lineCycles

theorem isDisplay_of_mem_lineCharges {raster : Raster μ σ} {charge : Charge}
    (hsteal : raster.timing.cycleStealing = false) (hmem : charge ∈ raster.lineCharges) :
    charge.isDisplay = false := by
  rw [lineCharges] at hmem
  exact Board.isDisplay_of_mem_lineCharges hsteal hmem

theorem keepsTime_one (turns : Nat → HostTurn σ) {raster : Raster μ σ}
    (hsteal : raster.timing.cycleStealing = false) (hblank : raster.timing.hblank ≤ lineCycles) :
    raster.KeepsTime turns 1 := by
  have hrun : raster.run turns 1 = raster.next (turns 0) := by simp only [run]
  have hcharges : raster.charges turns 1 = raster.lineCharges := by
    rw [charges, charges, run, List.nil_append]
  refine ⟨hrun ▸ le_counter_next _ _, hrun ▸ counter_next_le _ hsteal hblank,
    fun charge hmem => ?_, ?_⟩
  · rw [hcharges] at hmem
    exact isDisplay_of_mem_lineCharges hsteal hmem
  · rw [hcharges, hrun, counter_next_eq _ hsteal]
    omega

theorem KeepsTime.succ {turns : Nat → HostTurn σ} {count : Nat} {raster : Raster μ σ}
    (h : raster.KeepsTime turns count) (hsteal : raster.timing.cycleStealing = false)
    (hblank : raster.timing.hblank ≤ lineCycles) : raster.KeepsTime turns (count + 1) := by
  rw [← timing_run turns count raster] at hsteal hblank
  refine ⟨le_counter_next _ _, counter_next_le _ hsteal hblank, fun charge hmem => ?_, ?_⟩
  · rw [charges, List.mem_append] at hmem
    rcases hmem with hbefore | hlast
    · exact h.no_display charge hbefore
    · exact isDisplay_of_mem_lineCharges hsteal hlast
  · obtain ⟨hle, hmost, -, htotal⟩ := h
    have hcarry : (raster.run turns count).counter % lineCycles =
        (raster.run turns count).counter - lineCycles := by
      simp only [lineCycles] at hle ⊢
      omega
    rw [charges, Charge.total_append, run, counter_next_eq _ hsteal, hcarry]
    simp only [lineCycles] at hle htotal ⊢
    omega

/-- Where the display does not steal, time is kept over any number of lines and across the ends of
frames. -/
theorem keepsTime (turns : Nat → HostTurn σ) {count : Nat} {raster : Raster μ σ}
    (hcount : 1 ≤ count) (hsteal : raster.timing.cycleStealing = false)
    (hblank : raster.timing.hblank ≤ lineCycles) : raster.KeepsTime turns count := by
  induction count with
  | zero => omega
  | succ count ih =>
    rcases Nat.eq_zero_or_pos count with rfl | hpos
    · exact keepsTime_one turns hsteal hblank
    · exact (ih hpos).succ hsteal hblank

/-- A program on the stand-in chips, before the last line of a frame. -/
theorem keepsTime_idle :
    let raster : Raster IdleDisplay SilentSound :=
      { board :=
          { bus := { tia := {}, pokey := {} }
            display := {}
            scheduler := { timing := { cycleStealing := false }, cycles := 1000 } }
        line := Region.ntsc.scanlines
        gun := none
        pokey := false }
    raster.timing.cycleStealing = false ∧ raster.timing.hblank ≤ lineCycles ∧
      raster.KeepsTime (fun _ => ⟨id, {}⟩) 3 :=
  ⟨rfl, by decide, keepsTime _ (by decide) rfl (by decide)⟩

end Raster
end Console7800
