import Console7800.Proofs.Cpu.Cost
import Console7800.Proofs.Cpu.StackPage

/-!
# What one instruction may touch

The writes of an instruction, and what it leaves of the registers, by class: most instructions write
nothing, stores and changes of memory write the one byte that their mode names, and entries push
onto page one. A store goes where the load with its mode looks (`footprint_store`). A byte without
an instruction is read and passed over (`step_footprint`).
-/

namespace Console7800

/-- The address and the byte of a write. -/
def BusEvent.write? : BusEvent → Option (UInt16 × UInt8)
  | .read _ _ => none
  | .write address value => some (address, value)

/-- The writes among what was done. -/
def writes (events : List BusEvent) : List (UInt16 × UInt8) := events.filterMap BusEvent.write?

@[simp] theorem writes_nil : writes [] = [] := rfl

@[simp] theorem writes_read (address : UInt16) (value : UInt8) (events : List BusEvent) :
    writes (.read address value :: events) = writes events := rfl

@[simp] theorem writes_write (address : UInt16) (value : UInt8) (events : List BusEvent) :
    writes (.write address value :: events) = (address, value) :: writes events := rfl

@[simp] theorem writes_append (first second : List BusEvent) :
    writes (first ++ second) = writes first ++ writes second :=
  List.filterMap_append

/-- The writes are `count` bytes, all of them in page one. -/
def Pushes (count : Nat) (events : List BusEvent) : Prop :=
  (writes events).length = count ∧ ∀ w ∈ writes events, 0x0100 ≤ w.1 ∧ w.1 ≤ 0x01FF

/-- The change moves bits, and so the carry. -/
def Modification.shifts : Modification → Bool
  | .increment | .decrement => false
  | _ => true

/-- The instructions that may move the stack pointer. -/
def Instruction.movesStack : Instruction → Bool
  | .txs | .pha | .php | .pla | .plp | .jsr | .rts | .rti | .brk => true
  | _ => false

/-- What an instruction whose opcode byte has just been fetched may do. -/
def Instruction.Footprint {β : Type} [Bus β] (instruction : Instruction) (r : Registers)
    (bus : β) : Prop :=
  let events := (instruction.execute r).events bus
  let after := ((instruction.execute r).run bus).1.registers
  (instruction.movesStack = false → after.s = r.s) ∧
    match instruction with
    | .store source mode =>
      ∃ reads address data, writes reads = [] ∧
        events = reads ++ [.write address (r.get source)] ∧
        ((Instruction.read (.load source) mode).execute r).events bus =
          reads ++ [.read address data] ∧
        after = { r with pc := after.pc }
    | .modify op _ =>
      ∃ reads address data, writes reads = [] ∧
        events = reads ++ [.read address data, .write address (op.apply r.p data).1] ∧
        after = { r with
          pc := after.pc
          p := { r.p with
            negative := after.p.negative
            zero := after.p.zero
            carry := if op.shifts then after.p.carry else r.p.carry } }
    | .pha | .php => Pushes 1 events
    | .jsr => Pushes 2 events
    | .brk => Pushes 3 events
    | _ => writes events = []

section

variable {β : Type} [Bus β] (r : Registers) (bus : β)

/-! ## Pushes -/

/-- The stack pointer does not leave page one. -/
theorem Registers.stackTop_page : 0x0100 ≤ r.stackTop ∧ r.stackTop ≤ 0x01FF := by
  have hs := r.s.toNat_lt
  have htop : r.stackTop.toNat = 0x0100 + r.s.toNat := toNat_stackAddress r.s
  simp only [UInt16.le_iff_toNat_le, htop, UInt16.reduceToNat]
  omega

theorem pushes_nil : Pushes 0 [] := ⟨rfl, nofun⟩

theorem Pushes.read {count : Nat} {events : List BusEvent} (h : Pushes count events)
    (address : UInt16) (value : UInt8) : Pushes count (.read address value :: events) := h

theorem Pushes.push {count : Nat} {events : List BusEvent} (h : Pushes count events)
    (value : UInt8) : Pushes (count + 1) (.write r.stackTop value :: events) :=
  ⟨congrArg (· + 1) h.1, List.forall_mem_cons.2 ⟨r.stackTop_page, h.2⟩⟩

/-! ## Operands -/

theorem Mode.writes_resolve (mode : Mode) : writes ((mode.resolve r).events bus) = [] := by
  cases mode <;> rfl

/-- Naming an operand moves nothing but the program counter. -/
theorem Mode.registers_resolve (mode : Mode) :
    ∃ pc, ((mode.resolve r).run bus).1.2 = { r with pc } := by
  cases mode <;> exact ⟨_, rfl⟩

/-! ## Classes -/

theorem Registers.s_set (register : Register) (value : UInt8) : (r.set register value).s = r.s := by
  cases register <;> rfl

theorem ReadOp.s_apply (op : ReadOp) (data : UInt8) : (op.apply data r).s = r.s := by
  cases op with
  | load target => exact Registers.s_set r target data
  | _ => rfl

/-- A change of a byte leaves the flags alone that it has no say in. -/
theorem Modification.status_apply (op : Modification) (p : Status) (data : UInt8) :
    (op.apply p data).2 =
      { p with
        negative := (op.apply p data).2.negative
        zero := (op.apply p data).2.zero
        carry := if op.shifts then (op.apply p data).2.carry else p.carry } := by
  cases op <;> rfl

namespace Instruction

theorem events_read (op : ReadOp) (mode : Mode) :
    ((read op mode).execute r).events bus =
      (mode.resolve r).events bus ++
        [.read ((mode.resolve r).run bus).1.1.address
          (Bus.read ((mode.resolve r).run bus).2 ((mode.resolve r).run bus).1.1.address).1] := by
  simp [execute, Access.events_bind, Access.get]

theorem footprint_read (op : ReadOp) (mode : Mode) : (read op mode).Footprint r bus := by
  obtain ⟨pc, hr⟩ := mode.registers_resolve r bus
  refine ⟨fun _ => ?_, ?_⟩
  · simp [execute, Access.run_bind, Access.get, ReadOp.s_apply, hr]
  · simp [events_read, mode.writes_resolve r bus]

theorem footprint_store (source : Register) (mode : Mode) :
    (store source mode).Footprint r bus := by
  obtain ⟨pc, hr⟩ := mode.registers_resolve r bus
  have hafter : (((store source mode).execute r).run bus).1.registers = { r with pc } := by
    simp [execute, Access.run_bind, Access.put, hr]
  have hevents : ((store source mode).execute r).events bus = (mode.resolve r).events bus ++
      [.write ((mode.resolve r).run bus).1.1.address (r.get source)] := by
    have hsource : { r with pc }.get source = r.get source := by cases source <;> rfl
    simp [execute, Access.events_bind, Access.put, hr, hsource]
  refine ⟨fun _ => ?_, _, _, _, mode.writes_resolve r bus, hevents, events_read r bus _ mode, ?_⟩
  · rw [hafter]
  · rw [hafter]

theorem footprint_modify (op : Modification) (mode : Mode) :
    (modify op mode).Footprint r bus := by
  obtain ⟨pc, hr⟩ := mode.registers_resolve r bus
  let address := ((mode.resolve r).run bus).1.1.address
  let data := (Bus.read ((mode.resolve r).run bus).2 address).1
  have hafter : (((modify op mode).execute r).run bus).1.registers =
      { r with pc, p := (op.apply r.p data).2 } := by
    simp [execute, Access.run_bind, Access.get, Access.put, hr, data, address]
  have hevents : ((modify op mode).execute r).events bus = (mode.resolve r).events bus ++
      [.read address data, .write address (op.apply r.p data).1] := by
    simp [execute, Access.events_bind, Access.get, Access.put, hr, data, address]
  refine ⟨fun _ => ?_, _, address, data, mode.writes_resolve r bus, hevents, ?_⟩
  · rw [hafter]
  · rw [hafter, ← op.status_apply]

theorem footprint (instruction : Instruction) : instruction.Footprint r bus := by
  cases instruction with
  | read op mode => exact footprint_read r bus op mode
  | store source mode => exact footprint_store r bus source mode
  | modify op mode => exact footprint_modify r bus op mode
  | adjust op register => exact ⟨fun _ => Registers.s_set _ register _, rfl⟩
  | transfer source target => exact ⟨fun _ => Registers.s_set r target _, rfl⟩
  | tsx | jmp | jmpIndirect | assign | nop => exact ⟨fun _ => rfl, rfl⟩
  | txs | pla | plp | rts | rti => exact ⟨nofun, rfl⟩
  | pha | php => exact ⟨nofun, pushes_nil.push r _⟩
  | jsr => exact ⟨nofun, (((pushes_nil.push _ _).push _ _).read _ _).read _ _⟩
  | brk =>
    exact ⟨nofun, ((((pushes_nil.read _ _).read _ _).push _ _).push _ _).push _ _⟩
  | branch flag wanted =>
    by_cases h : r.p.test flag = wanted
    · simp [Footprint, execute, Registers.fetch, Access.get, h, Registers.branch]
    · simp [Footprint, execute, Registers.fetch, Access.get, h]

end Instruction

end

namespace Cpu

/-- On any bus, an instruction fetches its opcode byte and then keeps to the footprint of its class.
A byte without an instruction is read and passed over, and leaves no other trace. -/
theorem step_footprint {β : Type} [Bus β] (cpu : Cpu) (bus : β) :
    let byte := (Bus.read bus cpu.registers.pc).1
    let fetched := (Bus.read bus cpu.registers.pc).2
    let r := { cpu.registers with pc := cpu.registers.pc + 1 }
    let after := (cpu.step.run bus).1.2
    match Opcode.ofByte? byte with
    | none =>
      cpu.step.events bus = [.read cpu.registers.pc byte] ∧
        (cpu.step.run bus).2 = fetched ∧
        after = { cpu with
          registers := r
          halfCycle := false
          opcode := byte
          instructions := cpu.instructions + 1 }
    | some opcode =>
      cpu.step.events bus =
          .read cpu.registers.pc byte :: (opcode.instruction.execute r).events fetched ∧
        after.registers = ((opcode.instruction.execute r).run fetched).1.registers ∧
        opcode.instruction.Footprint r fetched := by
  intro byte fetched r after
  cases hbyte : Opcode.ofByte? byte with
  | none =>
    have hrun := run_step_inert cpu bus hbyte
    refine ⟨?_, congrArg Prod.snd hrun, congrArg (·.1.2) hrun⟩
    simp [step, Registers.fetch, Access.get, byte, hbyte]
  | some opcode =>
    refine ⟨?_, ?_, opcode.instruction.footprint r fetched⟩
    · simp [step, Registers.fetch, Access.get, byte, hbyte, Access.events_bind, fetched, r]
    · simp [after, step, Registers.fetch, Access.get, byte, hbyte, Access.run_bind, fetched, r]

end Cpu
end Console7800
