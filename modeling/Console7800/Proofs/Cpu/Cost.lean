import Console7800.Cpu
import Console7800.Proofs.Access

/-!
# What one instruction costs

A byte without an instruction is passed over at no cost (`run_step_inert`). Every instruction costs
at least two cycles and, with the half cycle of a slow bit test, at most seven (`charged_step`).
-/

namespace Console7800

/-- The most cycles an instruction pays past its base cost. -/
def Instruction.extraLimit : Instruction → Nat
  | .read _ _ => 1
  | .branch _ _ => 2
  | _ => 0

/-- The bit test that can set the half-cycle latch. -/
def Instruction.slowTest : Instruction := .read .test .zeroPage

/-- An outcome within what its instruction may cost. -/
structure Outcome.Within (instruction : Instruction) (outcome : Outcome) : Prop where
  extra_le : outcome.extra ≤ instruction.extraLimit
  eq_slowTest : outcome.halfCycle = true → instruction = .slowTest

theorem Operand.penalty_le (operand : Operand) : operand.penalty ≤ 1 := Bool.toNat_le _

theorem Registers.extra_branch_le (r : Registers) (offset : UInt8) :
    (r.branch offset).extra ≤ 2 := by
  simp only [Registers.branch]
  split <;> decide

namespace Instruction

theorem within_of_plain {instruction : Instruction} {outcome : Outcome} (he : outcome.extra = 0)
    (hh : outcome.halfCycle = false) : outcome.Within instruction :=
  ⟨by omega, by simp [hh]⟩

theorem execute_within (instruction : Instruction) (r : Registers) :
    (instruction.execute r).Always (Outcome.Within instruction) := by
  cases instruction with
  | read op mode =>
    refine Access.Always.of_bind fun ⟨operand, r⟩ byte => ⟨operand.penalty_le, fun h => ?_⟩
    simp only [Bool.and_eq_true, beq_iff_eq] at h
    rw [h.1.1, h.1.2, slowTest]
  | branch flag wanted =>
    intro byte
    by_cases h : r.p.test flag = wanted
    · simpa [h] using ⟨Registers.extra_branch_le _ byte, by simp [Registers.branch]⟩
    · simpa [h] using within_of_plain rfl rfl
  | store source mode => exact Access.Always.of_bind fun _ => within_of_plain rfl rfl
  | modify op mode => exact Access.Always.of_bind fun _ _ => within_of_plain rfl rfl
  | adjust | transfer | tsx | txs | assign | nop => exact within_of_plain rfl rfl
  | pha | php => exact within_of_plain rfl rfl
  | pla | plp => exact fun _ => within_of_plain rfl rfl
  | jmp | jsr | rts => exact fun _ _ => within_of_plain rfl rfl
  | rti => exact fun _ _ _ => within_of_plain rfl rfl
  | jmpIndirect => exact fun _ _ _ _ => within_of_plain rfl rfl
  | brk => exact fun _ _ => within_of_plain rfl rfl

end Instruction

namespace Opcode

/-- What every entry of the matrix keeps to. -/
def Bounded (opcode : Opcode) : Prop :=
  2 ≤ opcode.cycles ∧ opcode.cycles + opcode.instruction.extraLimit ≤ 7 ∧
    (opcode.instruction = .slowTest → opcode.cycles ≤ 3)

instance (opcode : Opcode) : Decidable opcode.Bounded :=
  inferInstanceAs (Decidable (_ ∧ _ ∧ (_ → _)))

-- Over the list: the kernel finds an entry of the array only by going through those before it.
theorem all_bounded :
    matrix.toList.all fun entry => entry.all fun opcode => decide opcode.Bounded := by
  decide +kernel

/-- What a check of the whole matrix shows holds of every entry. -/
theorem of_matrix {P : Opcode → Prop} [DecidablePred P]
    (hall : matrix.toList.all fun entry => entry.all fun opcode => decide (P opcode))
    {byte : UInt8} {opcode : Opcode} (h : ofByte? byte = some opcode) : P opcode := by
  have hlt : byte.toNat < matrix.size := size_matrix ▸ byte.toNat_lt
  have hget : matrix[byte.toNat] = some opcode := h
  have hentry := List.all_eq_true.1 hall _ (Array.getElem_mem_toList hlt)
  rw [hget] at hentry
  simpa using hentry

theorem bounded {byte : UInt8} {opcode : Opcode} (h : ofByte? byte = some opcode) :
    opcode.Bounded :=
  of_matrix all_bounded h

end Opcode

namespace Cpu

/-- Quarter-cycles that an instruction takes: four to a cycle, and two more for the half cycle. -/
def charge (cycles : Nat) (half : Bool) : Nat := 4 * cycles + if half then 2 else 0

/-- What an instruction in the matrix charges. -/
def Charged (result : Nat × Cpu) : Prop := 2 ≤ result.1 ∧ charge result.1 result.2.halfCycle ≤ 28

theorem charge_le_of_within {opcode : Opcode} {outcome : Outcome} (hb : opcode.Bounded)
    (h : outcome.Within opcode.instruction) :
    charge (opcode.cycles + outcome.extra) outcome.halfCycle ≤ 28 := by
  obtain ⟨-, hmax, hslow⟩ := hb
  obtain ⟨hextra, htest⟩ := h
  unfold charge
  cases hhalf : outcome.halfCycle with
  | false => simp only [Bool.false_eq_true, if_false]; omega
  | true =>
    have heq := htest hhalf
    have hc := hslow heq
    rw [heq] at hextra
    simp only [Instruction.slowTest, Instruction.extraLimit] at hextra
    simp only [if_true]
    omega

section
variable {β : Type} [Bus β] (cpu : Cpu) (bus : β)

/-- A byte without an instruction is passed over. -/
theorem run_step_inert (h : Opcode.ofByte? (Bus.read bus cpu.registers.pc).1 = none) :
    cpu.step.run bus =
      ((0, { cpu with
        registers := { cpu.registers with pc := cpu.registers.pc + 1 }
        halfCycle := false
        opcode := (Bus.read bus cpu.registers.pc).1
        instructions := cpu.instructions + 1 }), (Bus.read bus cpu.registers.pc).2) := by
  simp [step, Registers.fetch, Access.get, h]

theorem charged_step {opcode : Opcode}
    (h : Opcode.ofByte? (Bus.read bus cpu.registers.pc).1 = some opcode) :
    Charged (cpu.step.run bus).1 := by
  have hb := Opcode.bounded h
  simp only [step, Registers.fetch, Access.get, Access.bind_def, Access.bind, Access.pure_def,
    Access.run_read, h]
  refine Access.Always.run ((Access.always_bind _ _).2 ?_) _
  refine (Instruction.execute_within _ _).mono fun outcome hw => ⟨?_, charge_le_of_within hb hw⟩
  have := hb.1
  omega

end

end Cpu
end Console7800
