import Console7800.Proofs.Cpu.Footprint
import Console7800.Proofs.Cpu.Nesting

/-!
# The zero flag in decimal mode

Subtraction takes the zero flag from the binary difference in both modes. Addition in decimal mode
takes it from the whole binary sum, the ninth bit included. So the two modes leave the same zero
flag unless an addition makes exactly 256, where only the binary one leaves it set
(`zero_decimal_iff`).
-/

namespace Console7800

/-! ## The arithmetic unit -/

namespace Arithmetic

/-- The status with decimal mode off. -/
def binaryMode (p : Status) : Status := { p with decimal := false }

variable (p : Status) (a data : UInt8)

theorem zero_addBinary :
    (addBinary p a data).2.zero = true ↔
      (a.toNat + data.toNat + p.carry.toNat) % 256 = 0 := by
  show (UInt8.ofNat (a.toNat + data.toNat + p.carry.toNat) == 0) = true ↔ _
  rw [beq_iff_eq, ← UInt8.toNat_inj, UInt8.toNat_ofNat']
  rfl

theorem zero_addDecimal :
    (addDecimal p a data).2.zero = true ↔ a.toNat + data.toNat + p.carry.toNat = 0 := by
  show (a.toNat + data.toNat + p.carry.toNat == 0) = true ↔ _
  rw [beq_iff_eq]

theorem zero_add (h : p.decimal = true) :
    ((add p a data).2.zero = true ↔ a.toNat + data.toNat + p.carry.toNat = 0) ∧
      ((add (binaryMode p) a data).2.zero = true ↔
        (a.toNat + data.toNat + p.carry.toNat) % 256 = 0) := by
  have hdecimal : add p a data = addDecimal p a data := if_pos h
  rw [hdecimal]
  exact ⟨zero_addDecimal p a data, zero_addBinary (binaryMode p) a data⟩

theorem zero_subtract : (subtract p a data).2.zero = (subtract (binaryMode p) a data).2.zero := by
  have hflags (p : Status) : (subtract p a data).2 = (subtractBinary p a data).2 := by
    unfold subtract
    dsimp only
    split <;> rfl
  rw [hflags, hflags]
  rfl

end Arithmetic

/-! ## Operands -/

/-- The byte that a read with this mode gets. -/
def Mode.load (mode : Mode) (r : Registers) : Access UInt8 := do
  let (operand, _) ← mode.resolve r
  Access.get operand.address

theorem Mode.load_status (mode : Mode) (r : Registers) (p : Status) :
    mode.load { r with p } = mode.load r := by
  cases mode <;> rfl

namespace Cpu

variable {β : Type} [Bus β] {op : ReadOp} {mode : Mode}

/-- What a step that runs a read leaves in the registers. -/
theorem Seat.registers_read {seat : Seat β} (h : seat.next? = some (.read op mode)) :
    let r := { seat.cpu.registers with pc := seat.cpu.registers.pc + 1 }
    let data := ((mode.load r).run (Bus.read seat.bus seat.cpu.registers.pc).2).1
    ∃ pc, (seat.call .step).cpu.registers = op.apply data { r with pc } := by
  intro r data
  obtain ⟨pc, hpc⟩ := mode.registers_resolve r (Bus.read seat.bus seat.cpu.registers.pc).2
  refine ⟨pc, (Seat.call_step h).1.trans ?_⟩
  simp [Instruction.execute, Access.run_bind, Access.get, data, Mode.load, r, hpc]

/-- The seat with the processor's decimal mode off. -/
def Seat.binaryMode (seat : Seat β) : Seat β :=
  { seat with cpu.registers.p := Arithmetic.binaryMode seat.cpu.registers.p }

/-- In decimal mode a step that adds or subtracts, whatever the bus and the addressing mode, leaves
the zero flag that it leaves in binary mode, unless it adds and the sum is 256. Then it leaves the
flag clear, and in binary mode set. -/
theorem zero_decimal_iff {seat : Seat β} (hdecimal : seat.cpu.registers.p.decimal = true)
    (hop : op = .add ∨ op = .subtract) (hnext : seat.next? = some (.read op mode)) :
    let r := { seat.cpu.registers with pc := seat.cpu.registers.pc + 1 }
    let data := ((mode.load r).run (Bus.read seat.bus seat.cpu.registers.pc).2).1
    let sum := r.a.toNat + data.toNat + r.p.carry.toNat
    let zero := (seat.call .step).cpu.registers.p.zero
    let binaryZero := (seat.binaryMode.call .step).cpu.registers.p.zero
    (zero = binaryZero ↔ ¬ (op = .add ∧ sum = 256)) ∧
      (op = .add ∧ sum = 256 → zero = false ∧ binaryZero = true) := by
  intro r data sum zero binaryZero
  let p := Arithmetic.binaryMode r.p
  obtain ⟨pc, hafter⟩ := Seat.registers_read hnext
  have hnextBinary : seat.binaryMode.next? = some (.read op mode) := hnext
  obtain ⟨pcBinary, hafterBinary⟩ := Seat.registers_read hnextBinary
  have hdata :
      ((mode.load { r with p }).run (Bus.read seat.bus seat.cpu.registers.pc).2).1 = data := by
    rw [mode.load_status]
  have hzero : zero = (op.apply data { r with pc }).p.zero := congrArg (·.p.zero) hafter
  have hbinaryZero : binaryZero = (op.apply data { r with pc := pcBinary, p }).p.zero := by
    rw [← hdata]
    exact congrArg (·.p.zero) hafterBinary
  rcases hop with rfl | rfl
  · obtain ⟨hwhole, hbyte⟩ := Arithmetic.zero_add r.p r.a data hdecimal
    have hwhole : zero = true ↔ sum = 0 := hzero ▸ hwhole
    have hbyte : binaryZero = true ↔ sum % 256 = 0 := hbinaryZero ▸ hbyte
    have hsum : sum < 512 := by
      have ha := r.a.toNat_lt
      have hbyte := data.toNat_lt
      have hcarry := r.p.carry.toNat_le
      omega
    rw [← Bool.not_eq_true, Bool.eq_iff_iff, hwhole, hbyte, and_iff_right rfl]
    omega
  · have hsame : zero = binaryZero :=
      hzero.trans ((Arithmetic.zero_subtract r.p r.a data).trans hbinaryZero.symm)
    exact ⟨iff_of_true hsame nofun, nofun⟩

/-- Scores of 99 and 67, whose bytes add up to 256. -/
theorem zero_decimal_iff_scores :
    let seat : Seat FlatRam := {
      cpu := { registers := { a := 0x99, pc := 0x0200, p := { decimal := true } } }
      bus := (FlatRam.poke {} 0x0200 0x69).poke 0x0201 0x67 }
    (seat.cpu.registers.p.decimal = true ∧ seat.next? = some (.read .add .immediate)) ∧
      (seat.call .step).cpu.registers.p.zero = false ∧
      (seat.binaryMode.call .step).cpu.registers.p.zero = true := by
  intro seat
  have hpeek (address : UInt16) : seat.bus.peek address =
      if 0x0201 = address then 0x67 else if 0x0200 = address then 0x69 else 0 := by
    simp only [seat, FlatRam.peek_poke]
    simp [FlatRam.peek]
  have hnext : seat.next? = some (.read .add .immediate) :=
    congrArg (fun byte => (Opcode.ofByte? byte).map Opcode.instruction) (hpeek 0x0200)
  have hdata : seat.bus.peek 0x0201 = 0x67 := hpeek 0x0201
  refine ⟨⟨rfl, hnext⟩, (zero_decimal_iff rfl (.inl rfl) hnext).2 ⟨rfl, ?_⟩⟩
  show (0x99 : UInt8).toNat + (seat.bus.peek 0x0201).toNat + 0 = 256
  rw [hdata]
  rfl

end Cpu
end Console7800
