import Console7800.Proofs.Cpu.Calls
import Console7800.Proofs.Cpu.StackPage
import Mathlib.Data.List.Forall2

/-!
# Calls and interrupts unwind

Calls, breaks and interrupts enter one another, each leaving a visit open until its return is run.
In between anything may happen that leaves the stack alone. The bytes that the open visits have
pushed are what the stack holds (`Nested.live`), so each return finds those of the last one
(`Seat.Live.comeback`), and returns in reverse order unwind them all (`unwind`).
-/

namespace Console7800.Cpu

/-- The ways to be taken elsewhere and come back. -/
inductive Entry where
  | jsr | brk | nmi | irq
  deriving Repr, DecidableEq

/-- An entry that has been taken. -/
structure Visit where
  entry : Entry
  /-- The registers at which it was taken. -/
  registers : Registers

namespace Visit

/-- Where the program goes on after it. -/
def resume (visit : Visit) : UInt16 :=
  match visit.entry with
  | .jsr => visit.registers.pc + 3
  | .brk => visit.registers.pc + 2
  | .nmi | .irq => visit.registers.pc

/-- The status that coming back restores, if it restores one. -/
def status? (visit : Visit) : Option Status :=
  match visit.entry with
  | .jsr => none
  | .brk => some { visit.registers.p with brk := true }
  | .nmi | .irq => some { visit.registers.p with brk := false }

/-- What it leaves on the stack, first the byte that is pulled first. -/
def pushed (visit : Visit) : List UInt8 :=
  match visit.status? with
  | none => [lowByte (visit.resume - 1), highByte (visit.resume - 1)]
  | some status => [status.toByte, lowByte visit.resume, highByte visit.resume]

/-- The instruction that comes back. -/
def comeback (visit : Visit) : Instruction :=
  match visit.entry with
  | .jsr => .rts
  | .brk | .nmi | .irq => .rti

end Visit

/-- What open visits have on the stack, the last one first. -/
def pushedBy (visits : List Visit) : List UInt8 := visits.flatMap Visit.pushed

/-- At up to three bytes each, this many are no more than a page. -/
theorem length_pushedBy_le (visits : List Visit) (h : visits.length ≤ 85) :
    (pushedBy visits).length ≤ 256 := by
  suffices h : (pushedBy visits).length ≤ 3 * visits.length by omega
  clear h
  induction visits with
  | nil => simp [pushedBy]
  | cons visit visits ih =>
    have hvisit : visit.pushed.length ≤ 3 := by
      unfold Visit.pushed
      split <;> simp
    simp only [pushedBy, List.flatMap_cons, List.length_append, List.length_cons] at ih ⊢
    omega

variable {β : Type} [Bus β]

/-- The instruction that the next step runs. -/
def Seat.next? (seat : Seat β) : Option Instruction :=
  (Opcode.ofByte? (Bus.read seat.bus seat.cpu.registers.pc).1).map Opcode.instruction

/-- The entry is what comes next, or can be made to. -/
def Entry.Ready (entry : Entry) (seat : Seat β) : Prop :=
  match entry with
  | .jsr => seat.next? = some .jsr
  | .brk => seat.next? = some .brk
  | .nmi => True
  | .irq => seat.cpu.registers.p.irqDisable = false

/-- The call on the processor that makes the entry. -/
def Entry.call : Entry → Call
  | .jsr | .brk => .step
  | .nmi => .nmi
  | .irq => .irq

/-- Something has happened, but not to the stack. -/
def Seat.Undisturbed (before after : Seat β) : Prop :=
  after.cpu.registers.s = before.cpu.registers.s ∧
    ∀ page, Bus.StackHolds before.bus page → Bus.StackHolds after.bus page

/-- What can have happened since `start`, with the visits that are open, the last one first. No more
than a page is pushed. -/
inductive Nested (start : Seat β) : List Visit → Seat β → Prop where
  | start : Nested start [] start
  | elsewhere {visits : List Visit} {before after : Seat β} (h : Nested start visits before)
    (hstack : before.Undisturbed after) : Nested start visits after
  | enter {visits : List Visit} {seat : Seat β} (h : Nested start visits seat) (entry : Entry)
    (hready : entry.Ready seat)
    (hpage : (pushedBy (⟨entry, seat.cpu.registers⟩ :: visits)).length ≤ 256) :
    Nested start (⟨entry, seat.cpu.registers⟩ :: visits) (seat.call entry.call)
  | leave {visit : Visit} {visits : List Visit} {seat : Seat β}
    (h : Nested start (visit :: visits) seat) (hnext : seat.next? = some visit.comeback) :
    Nested start visits (seat.call .step)

/-- The returns from open visits, in reverse order, with whatever happens in between. `landings` are
the seats right after each. -/
inductive Unwinds : Seat β → List Visit → List (Seat β) → Seat β → Prop where
  | done (seat : Seat β) : Unwinds seat [] [] seat
  | elsewhere {before after last : Seat β} {visits : List Visit} {landings : List (Seat β)}
    (hstack : before.Undisturbed after) (h : Unwinds after visits landings last) :
    Unwinds before visits landings last
  | leave {seat last : Seat β} {visit : Visit} {visits : List Visit} {landings : List (Seat β)}
    (hnext : seat.next? = some visit.comeback)
    (h : Unwinds (seat.call .step) visits landings last) :
    Unwinds seat (visit :: visits) (seat.call .step :: landings) last

/-! ## One call -/

variable {seat : Seat β} {base : UInt8} {bytes : List UInt8}

/-- From the stack pointer of a seat up to `base`, its bus holds `bytes`. -/
def Seat.Live (seat : Seat β) (base : UInt8) (bytes : List UInt8) : Prop :=
  Bus.Live seat.bus base seat.cpu.registers.s bytes

theorem Seat.call_step {instruction : Instruction} (h : seat.next? = some instruction) :
    let r := { seat.cpu.registers with pc := seat.cpu.registers.pc + 1 }
    let run := (instruction.execute r).run (Bus.read seat.bus seat.cpu.registers.pc).2
    (seat.call .step).cpu.registers = run.1.registers ∧ (seat.call .step).bus = run.2 := by
  obtain ⟨opcode, hbyte, rfl⟩ := Option.map_eq_some_iff.1 h
  simp [call, answer, step, Registers.fetch, Access.get, hbyte, Access.run_bind]

theorem live_jsr {bus : β} {r : Registers} (h : Bus.Live bus base r.s bytes)
    (hlength : bytes.length + 1 < 256) :
    let run := (Instruction.jsr.execute r).run bus
    let word := r.pc + 1 + 1 - 1
    Bus.Live run.2 base run.1.registers.s (lowByte word :: highByte word :: bytes) :=
  ((h.read _).read _).pushWord (r := { r with pc := r.pc + 1 + 1 }) hlength _

theorem live_pushFrame {bus : β} {r : Registers} (h : Bus.Live bus base r.s bytes)
    (hlength : bytes.length + 2 < 256) (word : UInt16) (value : UInt8) :
    Bus.Live (Bus.write ((r.pushWord word).run bus).2 (stackAddress (r.s - 1 - 1)) value) base
      (r.s - 1 - 1 - 1) (value :: lowByte word :: highByte word :: bytes) :=
  (h.pushWord (Nat.lt_of_succ_lt hlength) word).push hlength value

theorem live_brk {bus : β} {r : Registers} (h : Bus.Live bus base r.s bytes)
    (hlength : bytes.length + 2 < 256) :
    let run := (Instruction.brk.execute r).run bus
    Bus.Live run.2 base run.1.registers.s ({ r.p with brk := true }.toByte ::
      lowByte (r.pc + 1) :: highByte (r.pc + 1) :: bytes) :=
  ((live_pushFrame h hlength _ _).read _).read _

theorem live_interruptTo {bus : β} {cpu : Cpu} (h : Bus.Live bus base cpu.registers.s bytes)
    (hlength : bytes.length + 2 < 256) (vector : UInt16) :
    let run := (cpu.interruptTo vector).run bus
    Bus.Live run.2 base run.1.registers.s ({ cpu.registers.p with brk := false }.toByte ::
      lowByte cpu.registers.pc :: highByte cpu.registers.pc :: bytes) :=
  ((live_pushFrame h hlength _ _).read _).read _

theorem Seat.Live.enter (h : seat.Live base bytes) (entry : Entry) (hready : entry.Ready seat)
    (hpage : bytes.length + (Visit.mk entry seat.cpu.registers).pushed.length ≤ 256) :
    (seat.call entry.call).Live base ((Visit.mk entry seat.cpu.registers).pushed ++ bytes) := by
  have hpc : seat.cpu.registers.pc + 1 + 1 = seat.cpu.registers.pc + 2 := by
    rw [UInt16.add_assoc]
    rfl
  have hfetched := Bus.Live.read h seat.cpu.registers.pc
  cases entry with
  | jsr =>
    obtain ⟨hregisters, hbus⟩ := call_step hready
    have hresume : seat.cpu.registers.pc + 1 + 1 + 1 = seat.cpu.registers.pc + 3 := by
      rw [hpc, UInt16.add_assoc]
      rfl
    have hentered := live_jsr (r := { seat.cpu.registers with pc := seat.cpu.registers.pc + 1 })
      hfetched hpage
    simp only [hresume] at hentered
    rw [Seat.Live, Entry.call, hregisters, hbus]
    exact hentered
  | brk =>
    obtain ⟨hregisters, hbus⟩ := call_step hready
    have hentered := live_brk (r := { seat.cpu.registers with pc := seat.cpu.registers.pc + 1 })
      hfetched hpage
    simp only [hpc] at hentered
    rw [Seat.Live, Entry.call, hregisters, hbus]
    exact hentered
  | nmi => exact live_interruptTo h hpage _
  | irq =>
    have htaken : seat.cpu.irq = (do
        let cpu ← seat.cpu.interruptTo irqVector
        return (interruptCycles, cpu)) := by
      have hmask : seat.cpu.registers.p.irqDisable = false := hready
      simp [irq, hmask]
    have hentered := live_interruptTo h hpage irqVector
    simp only [Seat.Live, Entry.call, Seat.call, answer, htaken]
    exact hentered

/-- The landing right after the return from a visit. -/
structure Visit.Lands (visit : Visit) (landing : Seat β) : Prop where
  pc : landing.cpu.registers.pc = visit.resume
  p : ∀ status ∈ visit.status?, landing.cpu.registers.p = status

theorem Seat.Live.rts {word : UInt16}
    (h : seat.Live base (lowByte word :: highByte word :: bytes)) (hnext : seat.next? = some .rts) :
    (seat.call .step).cpu.registers.pc = word + 1 ∧ (seat.call .step).Live base bytes := by
  obtain ⟨hregisters, hbus⟩ := call_step hnext
  obtain ⟨after, hword, hlive⟩ := (Bus.Live.read h seat.cpu.registers.pc).pullWord
    (r := { seat.cpu.registers with pc := seat.cpu.registers.pc + 1 })
  rw [Seat.Live, hregisters, hbus]
  simp [Instruction.execute, Access.run_bind, hword, hlive]

theorem Seat.Live.rti {p : Status} {word : UInt16}
    (h : seat.Live base (p.toByte :: lowByte word :: highByte word :: bytes))
    (hnext : seat.next? = some .rti) :
    (seat.call .step).cpu.registers.pc = word ∧ (seat.call .step).cpu.registers.p = p ∧
      (seat.call .step).Live base bytes := by
  obtain ⟨hregisters, hbus⟩ := call_step hnext
  obtain ⟨middle, hstatus, hmiddle⟩ := (Bus.Live.read h seat.cpu.registers.pc).pullByte
    (r := { seat.cpu.registers with pc := seat.cpu.registers.pc + 1 })
  obtain ⟨after, hword, hlive⟩ := hmiddle.pullWord
    (r := { seat.cpu.registers with
      pc := seat.cpu.registers.pc + 1, p, s := seat.cpu.registers.s + 1 })
  rw [Seat.Live, hregisters, hbus]
  simp [Instruction.execute, Access.run_bind, hstatus, hword, hlive]

theorem Seat.Live.comeback {visit : Visit} (h : seat.Live base (visit.pushed ++ bytes))
    (hnext : seat.next? = some visit.comeback) :
    visit.Lands (seat.call .step) ∧ (seat.call .step).Live base bytes := by
  obtain ⟨entry, registers⟩ := visit
  cases entry with
  | jsr =>
    obtain ⟨hpc, hlive⟩ := Seat.Live.rts h hnext
    rw [UInt16.sub_add_cancel] at hpc
    exact ⟨⟨hpc, nofun⟩, hlive⟩
  | brk | nmi | irq =>
    obtain ⟨hpc, hp, hlive⟩ := Seat.Live.rti h hnext
    exact ⟨⟨hpc, by rintro status ⟨⟩; exact hp⟩, hlive⟩

theorem Seat.Live.undisturbed {after : Seat β} (h : seat.Live base bytes)
    (hstack : seat.Undisturbed after) : after.Live base bytes := by
  obtain ⟨page, hpage, hbytes⟩ := h
  exact ⟨page, hstack.2 page hpage, hstack.1 ▸ hbytes⟩

/-! ## All of them -/

/-- What the open visits have pushed is what the stack holds. -/
theorem Nested.live {start seat : Seat β} {page : UInt8 → UInt8} {visits : List Visit}
    (hstart : Bus.StackHolds start.bus page) (h : Nested start visits seat) :
    seat.Live start.cpu.registers.s (pushedBy visits) := by
  induction h with
  | start => exact .nil hstart _
  | elsewhere _ hstack ih => exact ih.undisturbed hstack
  | enter _ entry hready hpage ih =>
    rw [pushedBy, List.flatMap_cons, List.length_append, Nat.add_comm] at hpage
    exact ih.enter entry hready hpage
  | leave _ hnext ih => exact (ih.comeback hnext).2

/-- From a start with any stack pointer and page one plain RAM: after any calls, breaks and
interrupts have been entered, each of the matching returns, run in reverse order, goes on where its
entry says, with the status that it saved. After the last one the stack pointer is back. -/
theorem unwind {start deep last : Seat β} {page : UInt8 → UInt8} {visits : List Visit}
    {landings : List (Seat β)} (hstart : Bus.StackHolds start.bus page)
    (hnested : Nested start visits deep) (hunwinds : Unwinds deep visits landings last) :
    List.Forall₂ Visit.Lands visits landings ∧
      last.cpu.registers.s = start.cpu.registers.s := by
  -- Of how `deep` came about, only what the stack holds there is needed.
  have hlive := hnested.live hstart
  clear hnested
  induction hunwinds with
  | done => exact ⟨.nil, hlive.eq_base⟩
  | elsewhere hstack _ ih => exact ih (hlive.undisturbed hstack)
  | leave hnext _ ih =>
    obtain ⟨hlands, hafter⟩ := hlive.comeback hnext
    obtain ⟨hrest, hs⟩ := ih hafter
    exact ⟨.cons hlands hrest, hs⟩

/-! ## A program that enters all four -/

/-- The program has come to `pc`, where it finds `opcode`. -/
def Seat.reach (seat : Seat FlatRam) (opcode : UInt8) (pc : UInt16) (p : Status) : Seat FlatRam :=
  { seat with
    cpu := { seat.cpu with registers := { seat.cpu.registers with pc, p } }
    bus := seat.bus.poke pc opcode }

theorem Seat.undisturbed_reach (seat : Seat FlatRam) (opcode : UInt8) (pc : UInt16) (p : Status)
    (hpc : 0x0200 ≤ pc) : seat.Undisturbed (seat.reach opcode pc p) :=
  ⟨rfl, fun _ hpage => FlatRam.stackHolds_poke hpage hpc opcode⟩

theorem Seat.next?_reach (seat : Seat FlatRam) (opcode : UInt8) (pc : UInt16) (p : Status) :
    (seat.reach opcode pc p).next? = (Opcode.ofByte? opcode).map Opcode.instruction := by
  simp [next?, reach, Bus.read, FlatRam.peek_poke]

/-- A subroutine entered at the end of memory, with a stack pointer that wraps there, in it a break,
in its handler an interrupt that nothing masks and in its handler one that the status could mask. -/
theorem unwind_each_entry :
    let start : Seat FlatRam := { cpu := {}, bus := {} }
    let jsr := start.reach 0x20 0xFFFE {}
    let brk := (jsr.call .step).reach 0x00 0x2000 { decimal := true }
    let nmi := brk.call .step
    let irq := (nmi.call .nmi).reach 0xEA 0x3000 { carry := true }
    let deep := irq.call .irq
    let fromIrq := deep.reach 0x40 0x4000 {}
    let fromNmi := (fromIrq.call .step).reach 0x40 0x4000 {}
    let fromBrk := (fromNmi.call .step).reach 0x40 0x4000 {}
    let fromJsr := (fromBrk.call .step).reach 0x60 0x4000 {}
    let last := fromJsr.call .step
    let visits : List Visit := [⟨.irq, irq.cpu.registers⟩, ⟨.nmi, nmi.cpu.registers⟩,
      ⟨.brk, brk.cpu.registers⟩, ⟨.jsr, jsr.cpu.registers⟩]
    let landings := [fromIrq.call .step, fromNmi.call .step, fromBrk.call .step, last]
    (Bus.StackHolds start.bus (fun _ => 0) ∧ Nested start visits deep ∧
        Unwinds deep visits landings last) ∧
      List.Forall₂ Visit.Lands visits landings ∧
        last.cpu.registers.s = start.cpu.registers.s := by
  intro start jsr brk nmi irq deep fromIrq fromNmi fromBrk fromJsr last visits landings
  have hstart : Bus.StackHolds start.bus (fun _ => 0) :=
    FlatRam.stackHolds_iff.2 fun s => by simp [start, FlatRam.peek]
  have hjsr : Nested start [] jsr :=
    .elsewhere .start (start.undisturbed_reach 0x20 0xFFFE {} (by decide))
  have hbrk : Nested start _ brk :=
    (hjsr.enter .jsr (Seat.next?_reach ..) (length_pushedBy_le _ (by simp))).elsewhere
      (Seat.undisturbed_reach _ 0x00 0x2000 { decimal := true } (by decide))
  have hnmi : Nested start _ nmi :=
    hbrk.enter .brk (Seat.next?_reach ..) (length_pushedBy_le _ (by simp))
  have hirq : Nested start _ irq :=
    (hnmi.enter .nmi trivial (length_pushedBy_le _ (by simp))).elsewhere
      (Seat.undisturbed_reach _ 0xEA 0x3000 { carry := true } (by decide))
  have hready : Entry.irq.Ready irq := rfl
  have hdeep : Nested start visits deep := hirq.enter .irq hready (length_pushedBy_le _ (by simp))
  have hreturn {opcode} (seat : Seat FlatRam) :=
    seat.undisturbed_reach opcode 0x4000 {} (by decide)
  have hunwinds : Unwinds deep visits landings last :=
    .elsewhere (hreturn _) <| .leave (Seat.next?_reach ..) <|
    .elsewhere (hreturn _) <| .leave (Seat.next?_reach ..) <|
    .elsewhere (hreturn _) <| .leave (Seat.next?_reach ..) <|
    .elsewhere (hreturn _) <| .leave (Seat.next?_reach ..) <| .done last
  exact ⟨⟨hstart, hdeep, hunwinds⟩, unwind hstart hdeep hunwinds⟩

end Console7800.Cpu
