import Console7800.Proofs.Board.Parts
import Console7800.Proofs.SystemBus.Decode

/-!
# Every frame ends

An opcode byte may be inert: it moves the program counter on by one and costs nothing. Every byte
that a program can place may be inert, but the byte at the gap among the pins and the timer is a
zero on every bus, and zero is an interrupt instruction. So no run of free steps is longer than the
way to the gap (`exists_cost`), and the loops of a line end, whatever the counter and the limit.

`Loop` is a loop without a bound on its turns; `Frame` puts a frame together from such loops.
-/

namespace Console7800

variable {μ σ : Type}

/-- What the scheduler does to the bus between two instructions. -/
inductive Interlude where
  | strobe (gun : Lightgun) (line cycles : Nat)
  | takeWait
  | advance (cycles : Nat)

def Interlude.apply : Interlude → SystemBus σ → SystemBus σ
  | .strobe gun line cycles, bus => bus.mapMemory (gun.strobe line cycles)
  | .takeWait, bus => bus.takeWait.2
  | .advance cycles, bus => bus.mapRiot (·.advance cycles)

namespace Cpu

variable [SoundChip σ]

/-- The costs of `count` instructions in a row. What `between i` lists is done to the bus after
the `i`th of them. -/
def costs (between : Nat → List Interlude) : Nat → Cpu → SystemBus σ → List Nat
  | 0, _, _ => []
  | count + 1, cpu, bus =>
    match cpu.step.run bus with
    | ((cycles, cpu), bus) =>
      cycles :: costs (fun i => between (i + 1)) count cpu
        ((between 0).foldl (fun bus interlude => interlude.apply bus) bus)

/-- Steps from the program counter to the gap. -/
def wayToGap (cpu : Cpu) : Nat := (SystemBus.gap - cpu.registers.pc).toNat

theorem wayToGap_lt (cpu : Cpu) : cpu.wayToGap < addressCount := UInt16.toNat_lt _

/-- A step costs at least two cycles, or it costs nothing and is one on the way to the gap. -/
theorem step_cost (cpu : Cpu) (bus : SystemBus σ) :
    Charged (cpu.step.run bus).1 ∨
      (cpu.step.run bus).1.1 = 0 ∧ (cpu.step.run bus).1.2.halfCycle = false ∧
        (cpu.step.run bus).1.2.wayToGap + 1 = cpu.wayToGap := by
  cases hop : Opcode.ofByte? (Bus.read bus cpu.registers.pc).1 with
  | some opcode => exact .inl (cpu.charged_step bus hop)
  | none =>
    right
    rw [cpu.run_step_inert bus hop]
    refine ⟨rfl, rfl, ?_⟩
    have hne : cpu.registers.pc ≠ SystemBus.gap := by
      intro hpc
      rw [hpc, show (Bus.read bus SystemBus.gap).1 = 0 from bus.read_gap] at hop
      exact absurd hop (by decide)
    have hne' : cpu.registers.pc.toNat ≠ SystemBus.gap.toNat := mt UInt16.toNat_inj.1 hne
    have hlt := cpu.registers.pc.toNat_lt
    simp only [wayToGap, UInt16.toNat_sub, UInt16.toNat_add, SystemBus.gap] at hne' ⊢
    simp at hne' ⊢
    omega

theorem exists_cost (between : Nat → List Interlude) (count : Nat) (cpu : Cpu)
    (bus : SystemBus σ) (h : cpu.wayToGap < count) :
    ∃ cost ∈ costs between count cpu bus, cost ≠ 0 := by
  induction count generalizing between cpu bus with
  | zero => omega
  | succ count ih =>
    simp only [costs, List.mem_cons]
    rcases cpu.step_cost bus with ⟨hcost, -⟩ | ⟨-, -, hway⟩
    · exact ⟨(cpu.step.run bus).1.1, .inl rfl, by omega⟩
    · obtain ⟨cost, hmem, hne⟩ := ih (fun i => between (i + 1)) (cpu.step.run bus).1.2
        ((between 0).foldl (fun bus interlude => interlude.apply bus) (cpu.step.run bus).2)
        (by omega)
      exact ⟨cost, .inr hmem, hne⟩

end Cpu

namespace Board

/-- A loop that takes turns until the counter reaches `limit` or a turn asks to wait, and what it
ends with. -/
inductive Loop (turn : Board μ σ → Bool × Board μ σ) (limit : Nat) :
    Board μ σ → Bool × Board μ σ → Prop where
  | reached {board : Board μ σ} (h : limit ≤ board.scheduler.cycles) :
    Loop turn limit board (false, board)
  | waits {board after : Board μ σ} (h : board.scheduler.cycles < limit)
    (ht : turn board = (true, after)) : Loop turn limit board (true, after)
  | next {board after : Board μ σ} {result : Bool × Board μ σ} (h : board.scheduler.cycles < limit)
    (ht : turn board = (false, after)) (hl : Loop turn limit after result) :
    Loop turn limit board result

theorem Loop.unique {turn : Board μ σ → Bool × Board μ σ} {limit : Nat} {board : Board μ σ}
    {r₁ r₂ : Bool × Board μ σ} (h₁ : Loop turn limit board r₁) (h₂ : Loop turn limit board r₂) :
    r₁ = r₂ := by
  induction h₁ with
  | reached h =>
    cases h₂ with
    | reached => rfl
    | waits h' | next h' => omega
  | waits h ht =>
    cases h₂ with
    | reached h' => omega
    | waits _ ht' => rw [← ht, ← ht']
    | next _ ht' => simp [ht] at ht'
  | next h ht _ ih =>
    cases h₂ with
    | reached h' => omega
    | waits _ ht' => simp [ht] at ht'
    | next _ ht' hl' =>
      rw [ht] at ht'
      cases ht'
      exact ih hl'

/-- Turns that a loop up to `limit` has at most before it: a whole pass over the addresses for each
unit left but the one being waited for, and the way to the gap for that one. -/
def turnsLeft (limit : Nat) (board : Board μ σ) : Nat :=
  if board.scheduler.cycles < limit then
    (limit - board.scheduler.cycles - 1) * addressCount + board.cpu.wayToGap + 1
  else 0

theorem turnsLeft_le (limit : Nat) (board : Board μ σ) :
    board.turnsLeft limit ≤ (limit - board.scheduler.cycles) * addressCount := by
  have := board.cpu.wayToGap_lt
  unfold turnsLeft
  split
  · obtain ⟨k, hk⟩ : ∃ k, limit - board.scheduler.cycles = k + 1 :=
      ⟨limit - board.scheduler.cycles - 1, by omega⟩
    rw [hk, Nat.add_sub_cancel, Nat.succ_mul]
    omega
  · omega

variable [SoundChip σ]

theorem step_cost (board : Board μ σ) :
    Cpu.Charged (board.step.1, board.step.2.cpu) ∨
      board.step.1 = 0 ∧ board.step.2.cpu.halfCycle = false ∧
        board.step.2.cpu.wayToGap + 1 = board.cpu.wayToGap :=
  board.cpu.step_cost board.bus

theorem turnsLeft_stepWatched (gun : Option Lightgun) {limit : Nat} {board : Board μ σ}
    (h : board.scheduler.cycles < limit) :
    (board.stepWatched gun).2.turnsLeft limit < board.turnsLeft limit := by
  have hcycles := board.cycles_stepWatched gun
  have hle := (board.stepWatched gun).2.turnsLeft_le limit
  rw [turnsLeft.eq_def limit board, if_pos h]
  rcases board.step_cost with ⟨hcost, -⟩ | ⟨hcost, hhalf, hway⟩
  · have hleft : limit - (board.stepWatched gun).2.scheduler.cycles ≤
        limit - board.scheduler.cycles - 1 := by
      rw [hcycles, Cpu.charge]
      omega
    have := Nat.mul_le_mul_right addressCount hleft
    omega
  · rw [hcost, hhalf] at hcycles
    rw [turnsLeft, hcycles, cpu_stepWatched]
    simp only [Cpu.charge, Nat.mul_zero, Bool.false_eq_true, if_false, Nat.add_zero, h, if_true]
    omega

theorem loop_runFor (gun : Option Lightgun) {limit fuel : Nat} {board : Board μ σ}
    (h : board.turnsLeft limit ≤ fuel) :
    Loop (·.stepWatched gun) limit board (runFor gun limit fuel board) := by
  induction fuel generalizing board with
  | zero =>
    refine .reached (Nat.not_lt.1 fun hlt => ?_)
    simp [turnsLeft, hlt] at h
  | succ fuel ih =>
    unfold runFor
    split
    · rename_i hlt
      have hturn := turnsLeft_stepWatched gun hlt
      split
      · rename_i after ht
        exact .waits hlt ht
      · rename_i after ht
        simp only [ht] at hturn
        exact .next hlt ht (ih (by omega))
    · exact .reached (by omega)

/-- A loop of a line has one end, and running finds it. -/
theorem loop_runTo (gun : Option Lightgun) (limit : Nat) (board : Board μ σ) :
    Loop (·.stepWatched gun) limit board (board.runTo gun limit) :=
  loop_runFor gun (turnsLeft_le limit board)

/-! ## Lines and frames -/

/-- The turn of the second loop, in which the light gun is served before the timer. -/
def stepStrobed (board : Board μ σ) (gun : Option Lightgun) : Bool × Board μ σ :=
  match board.step with
  | (cycles, board) => ((board.strobe gun).advanceTimer cycles).takeWait

theorem stepStrobed_eq (gun : Option Lightgun) :
    (fun board : Board μ σ => board.stepStrobed gun) = (·.stepWatched gun) := by
  funext board
  simp only [stepStrobed, stepWatched, strobe_advanceTimer]

variable [DisplayChip μ]

/-- A scanline, put together from loops without a bound. -/
def Line (gun : Option Lightgun) (pokey : Bool) (line : Nat) (board after : Board μ σ) : Prop :=
  ∃ first second : Bool × Board μ σ,
    Loop (·.stepWatched gun) board.scheduler.timing.hblank ((board.beginLine line).strobe gun)
      first ∧
    (if first.1 then second = (true, first.2.drawLine line)
      else Loop (·.stepStrobed gun) lineCycles (first.2.drawLine line) second) ∧
    after = ((if second.1 then second.2.halt else second.2).strobe gun).clockSound pokey

/-- `count` scanlines, the first of which is `line`. -/
inductive Lines (gun : Option Lightgun) (pokey : Bool) :
    Nat → Nat → Board μ σ → Board μ σ → Prop where
  | done {line : Nat} {board : Board μ σ} : Lines gun pokey 0 line board board
  | line {count line : Nat} {board middle after : Board μ σ} (h : Line gun pokey line board middle)
    (hs : Lines gun pokey count (line + 1) middle after) :
    Lines gun pokey (count + 1) line board after

/-- A frame, put together from its scanlines. -/
def Frame (gun : Lightgun) (board after : Board μ σ) : Prop :=
  ∃ last : Board μ σ,
    Lines (board.activeGun? gun) board.bus.pokeyActive board.scheduler.timing.region.scanlines 1
      (board.beginFrame board.bus.pokeyActive) last ∧
    after = last.endFrame

theorem line_iff {gun : Option Lightgun} {pokey : Bool} {line : Nat} {board after : Board μ σ} :
    Line gun pokey line board after ↔ after = board.runLine line gun pokey := by
  have hfirst := loop_runTo gun board.scheduler.timing.hblank ((board.beginLine line).strobe gun)
  rw [runLine_eq]
  constructor
  · rintro ⟨first, second, hf, hs, rfl⟩
    obtain rfl : first = board.firstHalf line gun := hf.unique hfirst
    obtain rfl : second = secondHalf (board.firstHalf line gun) line gun := by
      unfold secondHalf
      split at hs
      · rename_i hw
        simpa [hw] using hs
      · rename_i hw
        rw [stepStrobed_eq] at hs
        simpa [hw] using hs.unique (loop_runTo gun lineCycles _)
    rfl
  · rintro rfl
    refine ⟨board.firstHalf line gun, secondHalf (board.firstHalf line gun) line gun, hfirst, ?_,
      rfl⟩
    unfold secondHalf
    split
    · rfl
    · rw [stepStrobed_eq]
      exact loop_runTo gun lineCycles _

theorem lines_iff {gun : Option Lightgun} {pokey : Bool} {count line : Nat}
    {board after : Board μ σ} :
    Lines gun pokey count line board after ↔ after = runLines gun pokey count line board := by
  constructor
  · intro h
    induction h with
    | done => rfl
    | line h _ ih => rw [ih, line_iff.1 h, runLines]
  · rintro rfl
    induction count generalizing line board with
    | zero => exact .done
    | succ count ih =>
      rw [runLines]
      exact .line (line_iff.2 rfl) ih

theorem frame_iff {gun : Lightgun} {board after : Board μ σ} :
    Frame gun board after ↔ after = board.runFrame gun := by
  constructor
  · rintro ⟨last, hl, rfl⟩
    rw [lines_iff.1 hl, runFrame]
  · rintro rfl
    exact ⟨_, lines_iff.2 rfl, rfl⟩

end Board

/-- Of as many instructions in a row as there are addresses one costs something, whatever the
scheduler does in between; so each loop of a line ends, and each frame has one end. -/
theorem frame_progress [SoundChip σ] [DisplayChip μ] :
    (∀ (between : Nat → List Interlude) (cpu : Cpu) (bus : SystemBus σ),
      ∃ cost ∈ cpu.costs between addressCount bus, cost ≠ 0) ∧
    (∀ (gun : Option Lightgun) (limit : Nat) (board : Board μ σ),
      (∃ result, Board.Loop (·.stepWatched gun) limit board result) ∧
        ∃ result, Board.Loop (·.stepStrobed gun) limit board result) ∧
    ∀ (gun : Lightgun) (board after : Board μ σ),
      Board.Frame gun board after ↔ after = board.runFrame gun := by
  refine ⟨fun between cpu bus => cpu.exists_cost between _ bus cpu.wayToGap_lt,
    fun gun limit board => ?_, fun gun board after => Board.frame_iff⟩
  rw [Board.stepStrobed_eq]
  exact ⟨⟨_, Board.loop_runTo gun limit board⟩, ⟨_, Board.loop_runTo gun limit board⟩⟩

end Console7800
