import Console7800.Proofs.Cpu.Cost

/-!
# What an instruction pays past its table entry

Reads that index an address pay a cycle for leaving its page, which they do exactly if the low byte
of the address and the index together are more than a byte (`crossed_indexed_iff`). Taken branches
pay one cycle or two. Nothing else is paid (`step_pays_surcharge`).
-/

namespace Console7800

/-- The address that a mode indexes and the register it adds to it, for the modes that can leave a
page. -/
def Mode.indexing? (mode : Mode) (r : Registers) : Option (Access UInt16 × UInt8) :=
  match mode with
  | .absoluteX => some (Prod.fst <$> r.fetchWord, r.x)
  | .absoluteY => some (Prod.fst <$> r.fetchWord, r.y)
  | .indirectIndexed =>
    some ((do let (pointer, _) ← r.fetch; Access.getWord pointer.toUInt16), r.y)
  | _ => none

/-- The operations that index in all of these modes. -/
def ReadOp.accumulating : List ReadOp :=
  [.or, .and, .xor, .add, .load .a, .compare .a, .subtract]

/-- The reads that pay for leaving a page. -/
def ReadOp.paysIn (op : ReadOp) (mode : Mode) : Bool :=
  op ∈ accumulating && mode ∈ [Mode.absoluteX, .absoluteY, .indirectIndexed] ||
    op == .load .x && mode == .absoluteY || op == .load .y && mode == .absoluteX

/-- The cycles that an instruction pays past its table entry, if its opcode byte has just been
fetched. -/
def Instruction.surcharge {β : Type} [Bus β] (instruction : Instruction) (r : Registers)
    (bus : β) : Nat :=
  match instruction with
  | .read op mode =>
    match mode.indexing? r with
    | some (base, index) =>
      if op.paysIn mode ∧ 255 < (lowByte (base.run bus).1).toNat + index.toNat then 1 else 0
    | none => 0
  | .branch flag wanted =>
    let next := r.pc + 1
    let target := next + (Bus.read bus r.pc).1.toInt8.toInt16.toUInt16
    if r.p.test flag ≠ wanted then 0 else if highByte target = highByte next then 1 else 2
  | _ => 0

/-- Indexing leaves the page exactly if the low bytes carry, also past the last address. -/
theorem Operand.crossed_indexed_iff (base : UInt16) (index : UInt8) :
    (indexed base index).crossed = true ↔ 255 < (lowByte base).toNat + index.toNat := by
  have hbase := base.toNat_lt
  have hindex := index.toNat_lt
  rw [indexed, bne_iff_ne, ne_eq, ← UInt8.toNat_inj, toNat_highByte, toNat_highByte, toNat_lowByte,
    UInt16.toNat_add, UInt8.toNat_toUInt16]
  omega

theorem Operand.penalty_indexed (base : UInt16) (index : UInt8) :
    (indexed base index).penalty =
      if 255 < (lowByte base).toNat + index.toNat then 1 else 0 := by
  simp only [← crossed_indexed_iff, penalty]
  cases (indexed base index).crossed <;> rfl

/-- The offset of a branch is read as signed. -/
theorem branchTarget_eq (pc : UInt16) (offset : UInt8) :
    branchTarget pc offset = pc + offset.toInt8.toInt16.toUInt16 := by
  have hall : ∀ n : Fin 256, (UInt8.ofNat n).toInt8.toInt16.toUInt16 =
      if UInt8.ofNat n < 0x80 then (UInt8.ofNat n).toUInt16
      else (UInt8.ofNat n).toUInt16 - 256 := by
    decide +kernel
  have hsigned := hall ⟨offset.toNat, offset.toNat_lt⟩
  simp only [UInt8.ofNat_toNat] at hsigned
  rw [branchTarget, hsigned]
  split
  · rfl
  · grind

/-! ## Reads -/

section

variable {β : Type} [Bus β] (r : Registers) (bus : β)

theorem Mode.penalty_resolve (mode : Mode) :
    ((mode.resolve r).run bus).1.1.penalty =
      match mode.indexing? r with
      | some (base, index) =>
        if 255 < (lowByte (base.run bus).1).toNat + index.toNat then 1 else 0
      | none => 0 := by
  cases mode with
  | absoluteX | absoluteY | indirectIndexed => exact Operand.penalty_indexed _ _
  | immediate | zeroPage | zeroPageX | zeroPageY | absolute | indexedIndirect => rfl

theorem Instruction.extra_read (op : ReadOp) (mode : Mode) :
    (((Instruction.read op mode).execute r).run bus).1.extra =
      ((mode.resolve r).run bus).1.1.penalty := by
  simp [execute, Access.run_bind, Access.get]

theorem Instruction.extra_branch (flag : Flag) (wanted : Bool) :
    (((Instruction.branch flag wanted).execute r).run bus).1.extra =
      (Instruction.branch flag wanted).surcharge r bus := by
  simp only [execute, surcharge, Registers.fetch, Access.get, Access.bind_def, Access.bind,
    Access.pure_def, Access.run_read, Access.run_done]
  by_cases htaken : r.p.test flag = wanted
  · rw [if_pos htaken, if_neg (not_not_intro htaken), Registers.branch, branchTarget_eq]
    simp only [eq_comm]
  · rw [if_neg htaken, if_pos htaken]

end

/-! ## The matrix -/

namespace Opcode

/-- A read that indexes an address is one of those that pay for leaving its page. -/
def PaysIfIndexed (opcode : Opcode) : Prop :=
  match opcode.instruction with
  | .read op mode => mode ∈ [Mode.absoluteX, .absoluteY, .indirectIndexed] → op.paysIn mode = true
  | _ => True

instance (opcode : Opcode) : Decidable opcode.PaysIfIndexed := by
  unfold PaysIfIndexed; split <;> infer_instance

theorem all_paysIfIndexed :
    matrix.toList.all fun entry => entry.all fun opcode => decide opcode.PaysIfIndexed := by
  decide +kernel

end Opcode

theorem Instruction.extra_execute {β : Type} [Bus β] {byte : UInt8} {opcode : Opcode}
    (h : Opcode.ofByte? byte = some opcode) (r : Registers) (bus : β) :
    ((opcode.instruction.execute r).run bus).1.extra = opcode.instruction.surcharge r bus := by
  have hpays := Opcode.of_matrix Opcode.all_paysIfIndexed h
  obtain ⟨instruction, cycles⟩ := opcode
  have hwithin := ((execute_within instruction r).run bus).extra_le
  cases instruction with
  | read op mode =>
    rw [extra_read, Mode.penalty_resolve, surcharge]
    cases mode with
    | absoluteX | absoluteY | indirectIndexed =>
      have hop : op.paysIn _ = true := hpays (by decide)
      simp only [Mode.indexing?, hop, true_and]
    | immediate | zeroPage | zeroPageX | zeroPageY | absolute | indexedIndirect => rfl
  | branch flag wanted => exact extra_branch r bus flag wanted
  | _ => exact Nat.le_zero.1 hwithin

namespace Cpu

/-- On any bus, an instruction takes what the table says and its surcharge, and seven cycles at
most. A byte without an instruction takes what the table says. -/
theorem step_pays_surcharge {β : Type} [Bus β] (cpu : Cpu) (bus : β) :
    let byte := (Bus.read bus cpu.registers.pc).1
    let fetched := (Bus.read bus cpu.registers.pc).2
    let r := { cpu.registers with pc := cpu.registers.pc + 1 }
    let cycles := (cpu.step.run bus).1.1
    cycles = Opcode.baseCycles byte +
        (match Opcode.ofByte? byte with
        | some opcode => opcode.instruction.surcharge r fetched
        | none => 0) ∧
      cycles ≤ 7 := by
  intro byte fetched r cycles
  cases hbyte : Opcode.ofByte? byte with
  | none =>
    have hcycles : cycles = 0 := congrArg (·.1.1) (run_step_inert cpu bus hbyte)
    simp [hcycles, Opcode.baseCycles, hbyte]
  | some opcode =>
    have hcharged := (charged_step cpu bus hbyte).2
    have hcycles : cycles =
        opcode.cycles + ((opcode.instruction.execute r).run fetched).1.extra := by
      simp [cycles, step, Registers.fetch, Access.get, byte, r, fetched, hbyte, Access.run_bind]
    rw [Instruction.extra_execute hbyte] at hcycles
    refine ⟨by simp only [Opcode.baseCycles, hbyte, hcycles], ?_⟩
    unfold charge at hcharged
    omega

end Cpu
end Console7800
