import Console7800.Proofs.Cpu.Calls
import Console7800.Proofs.Cpu.Cost
import Mathlib.Data.List.Induction

/-!
# What the latch of the high-score cartridge says

`Act` is what can be done with a processor, and `Act.Enters` the one thing that sets the latch: a
step that runs a jump or a call and comes out at an entry point of the cartridge. Only clearing the
latch takes it back. So the latch says whether the cartridge has been entered since it was last
cleared, however else the program has come to those addresses (`highScoreEntered_after_iff`).
-/

namespace Console7800

/-! ## Instructions -/

/-- The instructions that the latch watches. -/
def Instruction.jumps : Instruction → Bool
  | .jmp | .jmpIndirect | .jsr => true
  | _ => false

/-- JMP to an address, JMP through a pointer, and JSR. -/
def jumpBytes : List UInt8 := [0x4C, 0x6C, 0x20]

/-- An entry point of the high-score cartridge. -/
def IsEntryPoint (pc : UInt16) : Prop := pc = 0x3FCF ∨ pc = 0x3FFD

theorem contains_highScoreEntries (pc : UInt16) :
    highScoreEntries.contains pc = true ↔ IsEntryPoint pc := by
  simp [highScoreEntries, IsEntryPoint]

theorem Opcode.jumps_ofByte? (byte : UInt8) :
    (ofByte? byte).any (·.instruction.jumps) = true ↔ byte ∈ jumpBytes := by
  have hall : ∀ n : Fin 256, (ofByte? (UInt8.ofNat n)).any (·.instruction.jumps) =
      jumpBytes.contains (UInt8.ofNat n) := by
    decide +kernel
  have hbyte := hall ⟨byte.toNat, byte.toNat_lt⟩
  simp only [UInt8.ofNat_toNat] at hbyte
  rw [hbyte, List.contains_iff_mem]

/-- The outcome reports an entry exactly if a jump has come out at an entry point. -/
def Instruction.Reports (instruction : Instruction) (outcome : Outcome) : Prop :=
  outcome.entered = true ↔ instruction.jumps = true ∧ IsEntryPoint outcome.registers.pc

namespace Instruction

theorem reports_jump {instruction : Instruction} (h : instruction.jumps = true) (r : Registers)
    (target : UInt16) : instruction.Reports (r.jump target) :=
  (contains_highScoreEntries target).trans (and_iff_right h).symm

theorem reports_of_plain {instruction : Instruction} {outcome : Outcome}
    (hentered : outcome.entered = false) (h : instruction.jumps = false) :
    instruction.Reports outcome :=
  iff_of_false (by simp [hentered]) fun hjump => by simp [h] at hjump

/-- Other instructions report nothing, whatever bytes they read and wherever they lead. -/
theorem execute_reports (instruction : Instruction) (r : Registers) :
    (instruction.execute r).Always instruction.Reports := by
  cases instruction with
  | jmp | jsr => exact fun _ _ => reports_jump rfl _ _
  | jmpIndirect => exact fun _ _ _ _ => reports_jump rfl _ _
  | branch flag wanted =>
    intro byte
    by_cases h : r.p.test flag = wanted
    · simpa [h] using reports_of_plain rfl rfl
    · simpa [h] using reports_of_plain rfl rfl
  | rts => exact fun _ _ => reports_of_plain rfl rfl
  | rti => exact fun _ _ _ => reports_of_plain rfl rfl
  | brk => exact fun _ _ => reports_of_plain rfl rfl
  | read op mode => exact Access.Always.of_bind fun _ _ => reports_of_plain rfl rfl
  | store source mode => exact Access.Always.of_bind fun _ => reports_of_plain rfl rfl
  | modify op mode => exact Access.Always.of_bind fun _ _ => reports_of_plain rfl rfl
  | pla | plp => exact fun _ => reports_of_plain rfl rfl
  | pha | php => exact reports_of_plain rfl rfl
  | adjust | transfer | tsx | txs | assign | nop => exact reports_of_plain rfl rfl

end Instruction

namespace Cpu

/-! ## One call -/

section

variable {β : Type} [Bus β]

/-- A step sets the latch if it runs a jump that comes out at an entry point, and else leaves it. -/
theorem highScoreEntered_step (cpu : Cpu) (bus : β) :
    let after := (cpu.step.run bus).1.2
    after.highScoreEntered = true ↔ cpu.highScoreEntered = true ∨
      (Bus.read bus cpu.registers.pc).1 ∈ jumpBytes ∧ IsEntryPoint after.registers.pc := by
  intro after
  rw [← Opcode.jumps_ofByte?]
  cases hbyte : Opcode.ofByte? (Bus.read bus cpu.registers.pc).1 with
  | none =>
    have hkept : after.highScoreEntered = cpu.highScoreEntered :=
      congrArg (·.1.2.highScoreEntered) (run_step_inert cpu bus hbyte)
    simp [hkept]
  | some opcode =>
    let r := { cpu.registers with pc := cpu.registers.pc + 1 }
    let outcome := ((opcode.instruction.execute r).run (Bus.read bus cpu.registers.pc).2).1
    have hreports : opcode.instruction.Reports outcome :=
      (opcode.instruction.execute_reports r).run _
    have hlatch : after.highScoreEntered = (cpu.highScoreEntered || outcome.entered) := by
      simp [after, step, Registers.fetch, Access.get, hbyte, Access.run_bind, outcome, r]
    have hregisters : after.registers = outcome.registers := by
      simp [after, step, Registers.fetch, Access.get, hbyte, Access.run_bind, outcome, r]
    rw [hlatch, hregisters, Bool.or_eq_true]
    exact or_congr_right hreports

/-- Interrupts and the start of a program leave the latch alone, wherever their vectors lead. -/
theorem answer_keepsLatch (cpu : Cpu) {call : Call} (h : call ≠ .step) :
    (cpu.answer call).Always fun result => result.2.highScoreEntered = cpu.highScoreEntered := by
  cases call with
  | step => exact absurd rfl h
  | nmi | restart => exact fun _ _ => rfl
  | irq =>
    show cpu.irq.Always _
    unfold irq
    split
    · exact rfl
    · exact fun _ _ => rfl

/-! ## Runs -/

/-- What can be done with a processor that sits on a bus. -/
inductive Act (β : Type) where
  | call (call : Call)
  /-- The registers are cleared, and the program is started. -/
  | reset
  | clear
  | clearHighScore
  /-- The rest of the console has set the registers, or has changed the bus. -/
  | elsewhere (registers : Registers) (bus : β)

def Seat.act (seat : Seat β) : Act β → Seat β
  | .call call => seat.call call
  | .reset =>
    match seat.cpu.reset.run seat.bus with
    | ((cycles, cpu), bus) => { cpu, bus, cycles := cycles :: seat.cycles }
  | .clear => { seat with cpu := seat.cpu.clear }
  | .clearHighScore => { seat with cpu := seat.cpu.clearHighScore }
  | .elsewhere registers bus => { seat with cpu := { seat.cpu with registers }, bus }

/-- Do one thing after the other. -/
def Seat.after (seat : Seat β) (acts : List (Act β)) : Seat β := acts.foldl act seat

theorem Seat.after_concat (seat : Seat β) (acts : List (Act β)) (act : Act β) :
    seat.after (acts ++ [act]) = (seat.after acts).act act :=
  List.foldl_append

/-- The act is a step that runs a jump or a call and comes out at an entry point. -/
def Act.Enters (act : Act β) (seat : Seat β) : Prop :=
  act = .call .step ∧ (Bus.read seat.bus seat.cpu.registers.pc).1 ∈ jumpBytes ∧
    IsEntryPoint (seat.act act).cpu.registers.pc

/-- One of the acts enters the cartridge, and none after it clears the latch. -/
def Seat.Entered (seat : Seat β) (acts : List (Act β)) : Prop :=
  ∃ before act since, acts = before ++ act :: since ∧ act.Enters (seat.after before) ∧
    .clearHighScore ∉ since

variable (seat : Seat β) (acts : List (Act β)) (act : Act β)

theorem Seat.highScoreEntered_act :
    (seat.act act).cpu.highScoreEntered = true ↔
      act.Enters seat ∨ seat.cpu.highScoreEntered = true ∧ act ≠ .clearHighScore := by
  have hkept (h : (seat.act act).cpu.highScoreEntered = seat.cpu.highScoreEntered)
      (hstep : act ≠ .call .step) (hclear : act ≠ .clearHighScore) :
      (seat.act act).cpu.highScoreEntered = true ↔
        act.Enters seat ∨ seat.cpu.highScoreEntered = true ∧ act ≠ .clearHighScore := by
    simp [h, hclear, Act.Enters, hstep]
  cases act with
  | call call =>
    by_cases hstep : call = .step
    · subst hstep
      have hnot : Act.call (β := β) .step ≠ .clearHighScore := nofun
      rw [and_iff_left hnot, or_comm, Act.Enters, and_iff_right rfl]
      exact seat.cpu.highScoreEntered_step seat.bus
    · refine hkept ?_ (by simpa using hstep) nofun
      exact (seat.cpu.answer_keepsLatch hstep).run seat.bus
  | clearHighScore => simp [Seat.act, clearHighScore, Act.Enters]
  | reset | clear | elsewhere => exact hkept rfl nofun nofun

/-- One more act enters the cartridge, or it has been entered already and is not cleared. -/
theorem Seat.entered_concat :
    seat.Entered (acts ++ [act]) ↔
      act.Enters (seat.after acts) ∨ seat.Entered acts ∧ act ≠ .clearHighScore := by
  constructor
  · rintro ⟨before, entering, since, hacts, henters, hsince⟩
    obtain rfl | ⟨since, last, rfl⟩ := since.eq_nil_or_concat
    · obtain ⟨rfl, hlast⟩ := List.append_inj' hacts rfl
      exact .inl (List.singleton_inj.1 hlast ▸ henters)
    · have hacts : acts ++ [act] = (before ++ entering :: since) ++ [last] := by simpa using hacts
      obtain ⟨rfl, hlast⟩ := List.append_inj' hacts rfl
      obtain rfl := List.singleton_inj.1 hlast
      rw [List.concat_eq_append, List.mem_append, List.mem_singleton, not_or] at hsince
      exact .inr ⟨⟨before, entering, since, rfl, henters, hsince.1⟩, Ne.symm hsince.2⟩
  · rintro (henters | ⟨⟨before, entering, since, rfl, henters, hsince⟩, hclear⟩)
    · exact ⟨acts, act, [], rfl, henters, List.not_mem_nil⟩
    · refine ⟨before, entering, since ++ [act], by simp, henters, ?_⟩
      simp [hsince, Ne.symm hclear]

/-- After any steps, interrupts, resets and clears, from any processor and bus, the latch is set
exactly if a step has run a jump or a call and come out at an entry point and the latch has not been
cleared since, or if it was set at the start and has never been cleared. -/
theorem Seat.highScoreEntered_after_iff :
    (seat.after acts).cpu.highScoreEntered = true ↔
      seat.Entered acts ∨ seat.cpu.highScoreEntered = true ∧ .clearHighScore ∉ acts := by
  induction acts using List.reverseRecOn with
  | nil => simp [after, Entered]
  | append_singleton acts act ih =>
    rw [after_concat, highScoreEntered_act, ih, entered_concat, or_and_right, or_assoc, and_assoc,
      List.mem_append, List.mem_singleton, not_or, ne_comm]

end
end Cpu
end Console7800
