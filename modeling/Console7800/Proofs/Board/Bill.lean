import Console7800.Proofs.Board.Ledger
import Console7800.Proofs.Console.Reset

/-!
# What the counter owes to the processor

The processor says what a reset, an instruction and an interrupt cost, in its own cycles. A bill
lists all of that since a reset, with what the ledger has for the display and for waits. The counter
takes the cost of a reset as quarters of a cycle, and nothing of what an interrupt costs; the rest
of the bill it pays (`billed_since_reset`).
-/

namespace Console7800

/-- What the counter is to be moved on for. -/
inductive Due where
  | reset (cycles : Nat)
  | interrupt (cycles : Nat)
  | charge (charge : Charge)
  deriving Repr, DecidableEq

namespace Due

/-- What the processor said that it took. -/
def cycles : Due → Nat
  | .reset cycles => cycles
  | .interrupt cycles => cycles
  | .charge (.instruction cycles _) => cycles
  | .charge _ => 0

/-- Half-cycle instructions. -/
def halves : Due → Nat
  | .charge (.instruction _ true) => 1
  | _ => 0

/-- Quarter-cycles in which the processor was held. -/
def held : Due → Nat
  | .charge (.display quarters) => quarters
  | .charge (.halt quarters) => quarters
  | _ => 0

def quarters (due : Due) : Nat := 4 * due.cycles + 2 * due.halves + due.held

def isInterrupt : Due → Bool
  | .interrupt _ => true
  | _ => false

def total : List Due → Nat
  | [] => 0
  | due :: dues => due.quarters + total dues

/-- How many interrupts there are on a bill. -/
def interrupts (dues : List Due) : Nat := dues.countP isInterrupt

@[simp] theorem total_nil : total [] = 0 := rfl

@[simp] theorem total_cons (due : Due) (dues : List Due) :
    total (due :: dues) = due.quarters + total dues := rfl

@[simp] theorem total_append (first second : List Due) :
    total (first ++ second) = total first + total second := by
  induction first with
  | nil => simp
  | cons due first ih => simp [ih, Nat.add_assoc]

@[simp] theorem interrupts_append (first second : List Due) :
    interrupts (first ++ second) = interrupts first + interrupts second :=
  List.countP_append

theorem quarters_charge (entry : Charge) : (charge entry).quarters = entry.quarters := by
  cases entry with
  | instruction count half =>
    cases half <;> simp [quarters, cycles, halves, held, Charge.quarters, Cpu.charge]
  | display | halt => simp [quarters, cycles, halves, held, Charge.quarters]

@[simp] theorem total_map_charge (charges : List Charge) :
    total (charges.map charge) = Charge.total charges := by
  induction charges with
  | nil => rfl
  | cons entry charges ih => rw [List.map_cons, total_cons, quarters_charge, ih, Charge.total_cons]

@[simp] theorem interrupts_map_charge (charges : List Charge) :
    interrupts (charges.map charge) = 0 := by
  rw [interrupts, List.countP_eq_zero]
  simp [isInterrupt]

end Due

theorem Cpu.cycles_nmi {β : Type} [Bus β] (cpu : Cpu) (bus : β) :
    (cpu.nmi.run bus).1.1 = interruptCycles := by
  simp [nmi, Access.run_bind]

namespace Board

variable {μ σ : Type} [SoundChip σ]

/-- The board on which a reset starts the processor, and counts what that took. -/
def started (timing : Timing) (cpu : Cpu) (bus : SystemBus σ) (display : μ) : Board μ σ :=
  match cpu.reset.run bus with
  | ((cycles, cpu), bus) => { cpu, bus, display, scheduler := { timing, cycles } }

/-- What the processor says that the reset took. -/
def resetDue (cpu : Cpu) (bus : SystemBus σ) : Due := .reset (cpu.reset.run bus).1.1

theorem cycles_started (timing : Timing) (cpu : Cpu) (bus : SystemBus σ) (display : μ) :
    (started timing cpu bus display).scheduler.cycles = Cpu.resetCycles := by
  rw [started, Cpu.run_reset]

theorem quarters_resetDue (cpu : Cpu) (bus : SystemBus σ) :
    (resetDue cpu bus).quarters = 4 * Cpu.resetCycles := by
  rw [resetDue, Cpu.run_reset]
  rfl

variable [DisplayChip μ]

/-- The interrupt that the display raises on a line, if it raises one. -/
def interruptDues (board : Board μ σ) (line : Nat) : List Due :=
  if (DisplayChip.render board.display line board.bus.memory).1.interrupt then
    [.interrupt (board.cpu.nmi.run board.bus).1.1]
  else []

/-- The bill for a line. -/
def lineDues (board : Board μ σ) (line : Nat) (gun : Option Lightgun) : List Due :=
  let first := board.firstHalf line gun
  (board.firstCharges line gun).map .charge ++ first.2.interruptDues line ++
    (secondCharges first line gun).map .charge ++
    (closeCharges (secondHalf first line gun)).map .charge

theorem total_interruptDues (board : Board μ σ) (line : Nat) :
    Due.total (board.interruptDues line) =
      4 * Cpu.interruptCycles * Due.interrupts (board.interruptDues line) := by
  unfold interruptDues
  split
  · rw [Cpu.cycles_nmi]
    rfl
  · rfl

theorem total_lineDues (board : Board μ σ) (line : Nat) (gun : Option Lightgun) :
    Due.total (board.lineDues line gun) =
      Charge.total (board.lineCharges line gun) +
        4 * Cpu.interruptCycles * Due.interrupts (board.lineDues line gun) := by
  simp only [lineDues, lineCharges, Due.total_append, Due.total_map_charge, Charge.total_append,
    Due.interrupts_append, Due.interrupts_map_charge, total_interruptDues, Nat.zero_add,
    Nat.add_zero]
  omega

end Board

/-- A reset of a console starts its board. -/
theorem Console.board_resetFor {μ σ : Type} [SoundChip σ] [DisplayChip μ] (console : Console μ σ)
    (loadingState : Bool) :
    (console.resetFor loadingState).board =
      Board.started (timingFor console.config console.cartridge?) console.board.cpu
        (console.startBus loadingState) (DisplayChip.reset console.board.display) := by
  rw [resetFor_eq_start, Board.started, Cpu.run_reset]

namespace Raster

variable {μ σ : Type} [SoundChip σ] [DisplayChip μ]

/-- How far the line that is drawn next moves the counter on. -/
def lineAdvance (raster : Raster μ σ) : Nat :=
  raster.drawn.scheduler.cycles - (raster.board.beginLine raster.line).scheduler.cycles

/-- How far the lines that `run` draws move the counter on. -/
def advance (turns : Nat → HostTurn σ) : Nat → Raster μ σ → Nat
  | 0, _ => 0
  | count + 1, raster => raster.advance turns count + (raster.run turns count).lineAdvance

/-- The bill for the lines that `run` draws. -/
def dues (turns : Nat → HostTurn σ) : Nat → Raster μ σ → List Due
  | 0, _ => []
  | count + 1, raster =>
    let last := raster.run turns count
    raster.dues turns count ++ last.board.lineDues last.line last.gun

theorem lineAdvance_eq (raster : Raster μ σ) :
    raster.lineAdvance = Charge.total raster.lineCharges := by
  rw [lineAdvance, drawn, Board.cycles_runLine, Nat.add_sub_cancel_left, lineCharges]

/-- The counter goes by the ledger. -/
theorem advance_eq (turns : Nat → HostTurn σ) (count : Nat) (raster : Raster μ σ) :
    raster.advance turns count = Charge.total (raster.charges turns count) := by
  induction count with
  | zero => rfl
  | succ count ih => rw [advance, ih, lineAdvance_eq, charges, Charge.total_append]

theorem total_dues (turns : Nat → HostTurn σ) (count : Nat) (raster : Raster μ σ) :
    Due.total (raster.dues turns count) =
      raster.advance turns count +
        4 * Cpu.interruptCycles * Due.interrupts (raster.dues turns count) := by
  induction count with
  | zero => rfl
  | succ count ih =>
    rw [dues, advance, lineAdvance_eq, lineCharges]
    simp only [Due.total_append, Due.interrupts_append, ih, Board.total_lineDues, Nat.mul_add]
    omega

/-- From a reset on, over any number of lines and frames. The counter starts at 6 and moves on by
what the ledger has for instructions, the display and waits. The bill is for more: by the 18
quarters that the reset's six cycles lack, and by the 28 quarters of every interrupt. -/
theorem billed_since_reset (timing : Timing) (cpu : Cpu) (bus : SystemBus σ) (display : μ)
    (gun : Lightgun) (turns : Nat → HostTurn σ) (count : Nat) :
    let start := Board.started timing cpu bus display
    let raster := ofFrame start gun
    let advanced := start.scheduler.cycles + raster.advance turns count
    let bill := Board.resetDue cpu bus :: raster.dues turns count
    advanced = 6 + Charge.total (raster.charges turns count) ∧
      Due.total bill = advanced + 18 + 28 * Due.interrupts bill := by
  intro start raster advanced bill
  have hstart : start.scheduler.cycles = 6 := Board.cycles_started ..
  have hinterrupts : Due.interrupts bill = Due.interrupts (raster.dues turns count) :=
    List.countP_cons_of_neg (by simp [Board.resetDue, Due.isInterrupt])
  have hreset : (Board.resetDue cpu bus).quarters = 24 := Board.quarters_resetDue ..
  constructor
  · simp only [advanced, hstart, advance_eq]
  · rw [hinterrupts, Due.total_cons, hreset, total_dues]
    simp only [advanced, hstart, Cpu.interruptCycles]
    omega

end Raster
end Console7800
