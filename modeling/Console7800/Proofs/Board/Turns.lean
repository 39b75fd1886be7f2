import Console7800.Proofs.Board.Overflow
import Mathlib.Algebra.GroupWithZero.Nat

/-!
# The turns of a line

A turn is an instruction and what the scheduler does after it. The turns of a line are all the
instructions of the line, and their costs with the display's are what moves the counter. A turn in
which the program waits is the last of its line, and the line ends where it would end anyway, or at
the start of the next one (`runLine_turns`).
-/

namespace Console7800

/-- An instruction that the scheduler has run. -/
structure Turn (μ σ : Type) where
  cycles : Nat
  half : Bool
  /-- The program's wait for the end of the line was taken. -/
  waits : Bool
  after : Board μ σ

def Turn.charge {μ σ : Type} (turn : Turn μ σ) : Charge := .instruction turn.cycles turn.half

/-- How far a turn moves the counter on. -/
def Turn.quarters {μ σ : Type} (turn : Turn μ σ) : Nat := turn.charge.quarters

namespace Board

variable {μ σ : Type} (board : Board μ σ)

/-! ## Instructions and halts are counted -/

/-- The instructions and the halts of the frame. -/
def tally : Nat × Nat := (board.scheduler.stats.instructions, board.scheduler.stats.waitHalts)

@[simp] theorem tally_strobe (gun : Option Lightgun) : (board.strobe gun).tally = board.tally := by
  cases gun <;> rfl

@[simp] theorem tally_beginLine (line : Nat) : (board.beginLine line).tally = board.tally := by
  unfold beginLine mapScheduler
  dsimp only
  repeat' split
  all_goals rfl

@[simp] theorem tally_halt : board.halt.tally = board.tally := by
  unfold halt
  split <;> rfl

@[simp] theorem tally_chargeDisplay (cycles : Nat) :
    (board.chargeDisplay cycles).tally = board.tally := by
  unfold chargeDisplay
  split <;> rfl

theorem tally_takeWait :
    board.takeWait.2.tally = (board.tally.1, board.tally.2 + board.takeWait.1.toNat) := by
  unfold takeWait
  split
  split
  · split <;> rfl
  · rfl

variable [SoundChip σ]

theorem tally_stepWatched (gun : Option Lightgun) :
    (board.stepWatched gun).2.tally =
      (board.tally.1 + 1, board.tally.2 + (board.stepWatched gun).1.toNat) := by
  simp only [stepWatched, tally_takeWait, tally_strobe]
  rfl

@[simp] theorem tally_clockSound (pokey : Bool) :
    (board.clockSound pokey).tally = board.tally := rfl

@[simp] theorem tally_closeLine (second : Bool × Board μ σ) (gun : Option Lightgun)
    (pokey : Bool) : (closeLine second gun pokey).tally = second.2.tally := by
  unfold closeLine
  split <;> simp

@[simp] theorem tally_drawLine [DisplayChip μ] (line : Nat) :
    (board.drawLine line).tally = board.tally := by
  unfold drawLine
  rw [tally_chargeDisplay]
  split <;> rfl

/-! ## The turns of a loop -/

def turn (gun : Option Lightgun) : Turn μ σ where
  cycles := board.step.1
  half := board.step.2.cpu.halfCycle
  waits := (board.stepWatched gun).1
  after := (board.stepWatched gun).2

/-- The turns of `runFor`. -/
def turnsFor (gun : Option Lightgun) (limit : Nat) : Nat → Board μ σ → List (Turn μ σ)
  | 0, _ => []
  | fuel + 1, board =>
    if board.scheduler.cycles < limit then
      let turn := board.turn gun
      turn :: if turn.waits then [] else turnsFor gun limit fuel turn.after
    else []

/-- The turns of `runTo`. -/
def turnsTo (gun : Option Lightgun) (limit : Nat) : List (Turn μ σ) :=
  turnsFor gun limit ((limit - board.scheduler.cycles) * addressCount) board

/-- Turns, with their entries in the ledger, and what they say of the board that they end with and
of whether a program waits there. -/
structure Turned (turns : List (Turn μ σ)) (charges : List Charge) (before : Board μ σ)
    (result : Bool × Board μ σ) : Prop where
  charges_eq : charges = turns.map Turn.charge
  tally_eq : result.2.tally = (before.tally.1 + turns.length, before.tally.2 + result.1.toNat)
  /-- A turn that another one follows does not wait. -/
  waits_last : turns.Pairwise fun turn _ => turn.waits = false
  waits_iff : result.1 = true ↔ ∃ turn ∈ turns, turn.waits = true

section

variable {board} {turns : List (Turn μ σ)} {charges : List Charge} {result : Bool × Board μ σ}

omit [SoundChip σ] in
theorem turned_nil (board : Board μ σ) : Turned [] [] board (false, board) :=
  ⟨rfl, rfl, .nil, by simp⟩

omit [SoundChip σ] in
theorem Turned.from_tally {before : Board μ σ} (h : Turned turns charges board result)
    (hbefore : before.tally = board.tally) : Turned turns charges before result where
  charges_eq := h.charges_eq
  tally_eq := by rw [hbefore, h.tally_eq]
  waits_last := h.waits_last
  waits_iff := h.waits_iff

omit [SoundChip σ] in
theorem Turned.to_tally {waits : Bool} {last after : Board μ σ}
    (h : Turned turns charges board (waits, last)) (hafter : after.tally = last.tally) :
    Turned turns charges board (waits, after) where
  charges_eq := h.charges_eq
  tally_eq := hafter.trans h.tally_eq
  waits_last := h.waits_last
  waits_iff := h.waits_iff

omit [SoundChip σ] in
theorem Turned.append {middle : Board μ σ} {more : List (Turn μ σ)} {moreCharges : List Charge}
    (h : Turned turns charges board (false, middle))
    (hmore : Turned more moreCharges middle result) :
    Turned (turns ++ more) (charges ++ moreCharges) board result := by
  have hfree : ∀ turn ∈ turns, turn.waits = false := fun turn hmem =>
    Bool.eq_false_iff.2 fun hwaits => Bool.false_ne_true (h.waits_iff.2 ⟨turn, hmem, hwaits⟩)
  refine ⟨?_, ?_, ?_, ?_⟩
  · rw [h.charges_eq, hmore.charges_eq, List.map_append]
  · rw [hmore.tally_eq, h.tally_eq, List.length_append, Nat.add_assoc]
    rfl
  · exact List.pairwise_append.2
      ⟨h.waits_last, hmore.waits_last, fun turn hmem _ _ => hfree turn hmem⟩
  · rw [hmore.waits_iff]
    constructor
    · rintro ⟨turn, hmem, hwaits⟩
      exact ⟨turn, List.mem_append_right _ hmem, hwaits⟩
    · rintro ⟨turn, hmem, hwaits⟩
      refine ⟨turn, (List.mem_append.1 hmem).resolve_left fun hfirst => ?_, hwaits⟩
      exact absurd hwaits (Bool.eq_false_iff.1 (hfree turn hfirst))

theorem turned_stepWatched (board : Board μ σ) (gun : Option Lightgun) :
    Turned [board.turn gun] [board.stepCharge] board (board.stepWatched gun) := by
  exact ⟨rfl, board.tally_stepWatched gun, List.pairwise_singleton _ _, by simp [turn]⟩

theorem turned_runFor (gun : Option Lightgun) (limit fuel : Nat) (board : Board μ σ) :
    Turned (turnsFor gun limit fuel board) (chargesFor gun limit fuel board) board
      (runFor gun limit fuel board) := by
  induction fuel generalizing board with
  | zero => exact turned_nil board
  | succ fuel ih =>
    have hstep := board.turned_stepWatched gun
    unfold turnsFor chargesFor runFor
    split
    · rcases hturn : board.stepWatched gun with ⟨waits, after⟩
      have hwaits : (board.turn gun).waits = waits := congrArg Prod.fst hturn
      have hafter : (board.turn gun).after = after := congrArg Prod.snd hturn
      rw [hturn] at hstep
      cases waits with
      | true => simpa only [hwaits, if_true] using hstep
      | false =>
        simp only [hwaits, hafter, Bool.false_eq_true, if_false]
        exact hstep.append (ih after)
    · exact turned_nil board

theorem turned_runTo (gun : Option Lightgun) (limit : Nat) (board : Board μ σ) :
    Turned (board.turnsTo gun limit) (board.chargesTo gun limit) board (board.runTo gun limit) :=
  turned_runFor gun limit _ board

end

/-! ## The turns of a line -/

/-- The turns of the first loop. -/
def firstTurns (line : Nat) (gun : Option Lightgun) : List (Turn μ σ) :=
  ((board.beginLine line).strobe gun).turnsTo gun board.scheduler.timing.hblank

variable [DisplayChip μ]

/-- The turns of a line. -/
def lineTurns (line : Nat) (gun : Option Lightgun) : List (Turn μ σ) :=
  let first := board.firstHalf line gun
  board.firstTurns line gun ++
    if first.1 then [] else (first.2.drawLine line).turnsTo gun lineCycles

/-- What the display charges for a line, if it steals. -/
def displayCost (line : Nat) (gun : Option Lightgun) : Nat :=
  let first := (board.firstHalf line gun).2
  if board.scheduler.timing.cycleStealing then
    (DisplayChip.render first.display line first.bus.memory).1.cycles
  else 0

omit [SoundChip σ] [DisplayChip μ] in
theorem total_map_charge (turns : List (Turn μ σ)) :
    Charge.total (turns.map Turn.charge) = (turns.map Turn.quarters).sum := by
  induction turns with
  | nil => rfl
  | cons turn turns ih =>
    rw [List.map_cons, List.map_cons, List.sum_cons, Charge.total_cons, ih]
    rfl

theorem total_displayCharges_firstHalf (line : Nat) (gun : Option Lightgun) :
    Charge.total ((board.firstHalf line gun).2.displayCharges line) =
      board.displayCost line gun := by
  rw [total_displayCharges, timing_firstHalf]
  rfl

/-- The entries of the instructions of a line. -/
def instructionCharges (line : Nat) (gun : Option Lightgun) : List Charge :=
  let first := board.firstHalf line gun
  board.firstCharges line gun ++
    if first.1 then [] else (first.2.drawLine line).chargesTo gun lineCycles

theorem turned_secondHalf (line : Nat) (gun : Option Lightgun) :
    Turned (board.lineTurns line gun) (board.instructionCharges line gun) board
      (secondHalf (board.firstHalf line gun) line gun) := by
  have hfirst : Turned (board.firstTurns line gun) (board.firstCharges line gun) board
      (board.firstHalf line gun) :=
    (turned_runTo gun _ ((board.beginLine line).strobe gun)).from_tally (by simp)
  unfold lineTurns instructionCharges secondHalf
  rcases hhalf : board.firstHalf line gun with ⟨halted, middle⟩
  rw [hhalf] at hfirst
  cases halted with
  | true =>
    simp only [if_true, List.append_nil]
    exact hfirst.to_tally (tally_drawLine ..)
  | false =>
    simp only [Bool.false_eq_true, if_false]
    have hdrawn : Turned _ _ board (false, middle.drawLine line) :=
      hfirst.to_tally (tally_drawLine ..)
    exact hdrawn.append (turned_runTo gun lineCycles _)

theorem cycles_secondHalf_turns (line : Nat) (gun : Option Lightgun) :
    (secondHalf (board.firstHalf line gun) line gun).2.scheduler.cycles =
      (board.beginLine line).scheduler.cycles +
        ((board.lineTurns line gun).map Turn.quarters).sum + board.displayCost line gun := by
  rw [cycles_secondHalf, cycles_firstHalf, ← total_map_charge,
    ← (board.turned_secondHalf line gun).charges_eq, ← total_displayCharges_firstHalf]
  simp only [instructionCharges, secondCharges, Charge.total_append]
  omega

/-- A line, on any board and with any display. It ends in the next line, past it by less than an
instruction, or by what the display costs on top of the first loop. Its turns are all of its
instructions. If the program waits in a turn, no other follows, the line ends where the next one
starts unless the counter is past that, and one halt is counted; if it does not, none is. -/
theorem runLine_turns (line : Nat) (gun : Option Lightgun) (pokey : Bool) :
    let turns := board.lineTurns line gun
    let drawn := board.displayCost line gun
    let counter := (board.beginLine line).scheduler.cycles + (turns.map Turn.quarters).sum + drawn
    let after := board.runLine line gun pokey
    454 ≤ after.scheduler.cycles ∧
    after.scheduler.cycles ≤ max 481 (max 453 (board.scheduler.timing.hblank + 27) + drawn) ∧
    after.scheduler.stats.instructions = board.scheduler.stats.instructions + turns.length ∧
    (∀ earlier turn later, turns = earlier ++ turn :: later → turn.waits = true →
      later = [] ∧ after.scheduler.cycles = max 454 counter ∧
        after.scheduler.stats.waitHalts = board.scheduler.stats.waitHalts + 1) ∧
    ((∀ turn ∈ turns, turn.waits = false) →
      after.scheduler.cycles = counter ∧
        after.scheduler.stats.waitHalts = board.scheduler.stats.waitHalts) := by
  intro turns drawn counter after
  have hturned := board.turned_secondHalf line gun
  have hcounter := board.cycles_secondHalf_turns line gun
  generalize hsecond : secondHalf (board.firstHalf line gun) line gun = second at hturned hcounter
  have hafter : after = closeLine second gun pokey := by rw [← hsecond, ← runLine_eq]
  have htally : after.tally =
      (board.tally.1 + turns.length, board.tally.2 + second.1.toNat) := by
    rw [hafter, tally_closeLine, hturned.tally_eq]
  obtain ⟨hinstructions, hhalts⟩ := Prod.mk.inj htally
  have hcycles : after.scheduler.cycles =
      if second.1 then max 454 counter else counter := by
    rw [hafter, cycles_closeLine, hcounter]
    rfl
  refine ⟨board.lineCycles_le_runLine line gun pokey, ?_, ?_, ?_, ?_⟩
  · have hmost := board.cycles_runLine_le line gun pokey
    have hbegin := board.cycles_beginLine_lt line
    rw [total_displayCharges_firstHalf] at hmost
    refine Nat.le_trans hmost ?_
    simp only [lineCycles] at hbegin
    omega
  · exact hinstructions
  · intro earlier turn later heq hwaits
    have hmem : turn ∈ turns := heq ▸ List.mem_append_right _ List.mem_cons_self
    have hhalted : second.1 = true := hturned.waits_iff.2 ⟨turn, hmem, hwaits⟩
    have hlast := hturned.waits_last
    rw [show board.lineTurns line gun = _ from heq, List.pairwise_append,
      List.pairwise_cons] at hlast
    refine ⟨List.eq_nil_iff_forall_not_mem.2 fun next hnext => ?_, ?_, ?_⟩
    · exact absurd hwaits (Bool.eq_false_iff.1 (hlast.2.1.1 next hnext))
    · rw [hcycles, hhalted, if_pos rfl]
    · rw [hhalts, hhalted]
      rfl
  · intro hfree
    have hrun : second.1 = false := Bool.eq_false_iff.2 fun hhalted => by
      obtain ⟨turn, hmem, hwaits⟩ := hturned.waits_iff.1 hhalted
      exact absurd hwaits (Bool.eq_false_iff.1 (hfree turn hmem))
    rw [hcycles, hhalts, hrun]
    exact ⟨rfl, rfl⟩

end Board
end Console7800
