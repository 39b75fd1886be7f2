import Console7800.Cpu
import Console7800.FlatRam
import Console7800.Proofs.Access

/-!
# Calls on a processor that sits on a bus

The board makes four kinds of calls on its processor. Two buses that answer alike are not told apart
by any number of them (`bisimilar_play`): what a program does on one kind of bus it does on every
other that shows it the same bytes.
-/

namespace Console7800.Cpu

inductive Call where
  | step
  | nmi
  | irq
  | restart
  deriving Repr, DecidableEq

/-- What the processor does when called: the cycles taken, and the processor after. -/
def answer (cpu : Cpu) : Call → Access (Nat × Cpu)
  | .step => cpu.step
  | .nmi => cpu.nmi
  | .irq => cpu.irq
  | .restart => cpu.restart

/-- A processor on its bus, with the cycles that each call has taken, the last one first. -/
structure Seat (β : Type) where
  cpu : Cpu
  bus : β
  cycles : List Nat := []

namespace Seat

variable {β γ : Type} [Bus β] [Bus γ]

/-- Make one call. -/
def call (seat : Seat β) (call : Call) : Seat β :=
  match (seat.cpu.answer call).run seat.bus with
  | ((cycles, cpu), bus) => { cpu, bus, cycles := cycles :: seat.cycles }

/-- Make one call after the other. -/
def play (seat : Seat β) (calls : List Call) : Seat β := calls.foldl call seat

/-- The seat on a bus that keeps a list of what is done. -/
def traced (seat : Seat β) : Seat (Traced β) := { seat with bus := { bus := seat.bus } }

/-- The reads and writes of a run of calls, in order. -/
def events (seat : Seat β) (calls : List Call) : Array BusEvent :=
  (seat.traced.play calls).bus.events

/-- Seats that nothing but the bus could tell apart. -/
structure Alike (R : β → γ → Prop) (left : Seat β) (right : Seat γ) : Prop where
  cpu : left.cpu = right.cpu
  cycles : left.cycles = right.cycles
  bus : R left.bus right.bus

variable {R : β → γ → Prop} {left : Seat β} {right : Seat γ}

theorem Alike.call (hR : Bus.Bisimulation R) (h : Alike R left right) (call : Call) :
    Alike R (left.call call) (right.call call) := by
  obtain ⟨hresult, hbus⟩ := hR.run (left.cpu.answer call) h.bus
  have hsame : right.cpu.answer call = left.cpu.answer call := by rw [h.cpu]
  unfold Seat.call
  rw [hsame, h.cycles]
  exact ⟨congrArg Prod.snd hresult, congrArg (·.1 :: right.cycles) hresult, hbus⟩

theorem Alike.play (hR : Bus.Bisimulation R) (h : Alike R left right) (calls : List Call) :
    Alike R (left.play calls) (right.play calls) := by
  induction calls generalizing left right with
  | nil => exact h
  | cons call calls ih => exact ih (h.call hR call)

/-- Keeping a list of what is done makes no difference to a run. -/
theorem alike_traced (seat : Seat β) (calls : List Call) :
    Alike (fun traced bus => traced.bus = bus) (seat.traced.play calls) (seat.play calls) :=
  Alike.play .untraced ⟨rfl, rfl, rfl⟩ calls

/-- From the same processor on two buses that answer alike, the same calls end in the same
processor, have taken the same cycles and have done the same reads and writes in the same order, and
the buses go on answering alike. -/
theorem bisimilar_play (hR : Bus.Bisimulation R) {bus : β} {other : γ} (h : R bus other)
    (cpu : Cpu) (calls : List Call) :
    let left : Seat β := { cpu, bus }
    let right : Seat γ := { cpu, bus := other }
    (left.play calls).cpu = (right.play calls).cpu ∧
      (left.play calls).cycles = (right.play calls).cycles ∧
      R (left.play calls).bus (right.play calls).bus ∧
      left.events calls = right.events calls := by
  intro left right
  have hrun : Alike R (left.play calls) (right.play calls) := Alike.play hR ⟨rfl, rfl, h⟩ calls
  have htraced := Alike.play hR.traced
    (show Alike _ left.traced right.traced from ⟨rfl, rfl, h, rfl⟩) calls
  exact ⟨hrun.cpu, hrun.cycles, hrun.bus, htraced.bus.2⟩

/-- A list kept beside flat memory makes no difference to a processor that is started, runs an
instruction and takes both interrupts. -/
theorem bisimilar_play_beside_list :
    let R := fun (traced : Traced FlatRam) (ram : FlatRam) => traced.bus = ram
    let calls := [.restart, .step, .nmi, .irq]
    let left : Seat (Traced FlatRam) := { cpu := {}, bus := { bus := {} } }
    let right : Seat FlatRam := { cpu := {}, bus := {} }
    (Bus.Bisimulation R ∧ R { bus := {} } {}) ∧
      (left.play calls).cpu = (right.play calls).cpu ∧
      (left.play calls).cycles = (right.play calls).cycles ∧
      R (left.play calls).bus (right.play calls).bus ∧
      left.events calls = right.events calls :=
  ⟨⟨.untraced, rfl⟩, bisimilar_play .untraced rfl {} [.restart, .step, .nmi, .irq]⟩

end Seat
end Console7800.Cpu
