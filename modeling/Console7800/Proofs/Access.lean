import Console7800.Bus

/-!
# Programs over a bus

`Always P program`: every result of `program` satisfies `P`, whatever bytes it reads.
`Within P program`: every address that `program` reads or writes satisfies `P`.
`events program bus`: the reads and writes that `program` does on `bus`, in order.
`run_related`: what holds between a bus and what one access makes of it holds across a program.
`Bus.Bisimulation R`: buses that `R` relates answer alike, now and after whatever is done over both
of them; a program then ends alike on both (`Bus.Bisimulation.run`).
-/

namespace Console7800

namespace Access

variable {α β γ : Type}

/-- Every result satisfies `P`, whatever bytes are read. -/
@[simp] def Always (P : α → Prop) : Access α → Prop
  | .done value => P value
  | .read _ next => ∀ byte, (next byte).Always P
  | .write _ _ next => next.Always P

theorem Always.mono {P Q : α → Prop} (hPQ : ∀ value, P value → Q value) {program : Access α}
    (h : program.Always P) : program.Always Q := by
  induction program with
  | done value => exact hPQ value h
  | read _ _ ih => exact fun byte => ih byte (h byte)
  | write _ _ _ ih => exact ih h

theorem always_bind {P : γ → Prop} (program : Access α) (f : α → Access γ) :
    (program.bind f).Always P ↔ program.Always fun value => (f value).Always P := by
  induction program with
  | done => rfl
  | read _ _ ih => exact forall_congr' ih
  | write _ _ _ ih => exact ih

theorem always_of_forall {P : α → Prop} (h : ∀ value, P value) (program : Access α) :
    program.Always P := by
  induction program with
  | done value => exact h value
  | read _ _ ih => exact ih
  | write _ _ _ ih => exact ih

/-- What follows a program may be looked at for every result at once. -/
theorem Always.of_bind {P : γ → Prop} {program : Access α} {f : α → Access γ}
    (h : ∀ value, (f value).Always P) : (program.bind f).Always P :=
  (always_bind program f).2 (always_of_forall h program)

theorem Always.run [Bus β] {P : α → Prop} {program : Access α} (h : program.Always P) (bus : β) :
    P (program.run bus).1 := by
  induction program generalizing bus with
  | done => exact h
  | read _ _ ih => exact ih _ (h _) _
  | write _ _ _ ih => exact ih h _

/-- A relation that holds across each read and each write, and composes, holds across a program. -/
theorem run_related [Bus β] {R : β → β → Prop} (refl : ∀ bus, R bus bus)
    (trans : ∀ {a b c}, R a b → R b c → R a c)
    (read : ∀ bus address, R bus (Bus.read bus address).2)
    (write : ∀ bus address value, R bus (Bus.write bus address value)) (program : Access α)
    (bus : β) : R bus (program.run bus).2 := by
  induction program generalizing bus with
  | done => exact refl bus
  | read address _ ih => exact trans (read bus address) (ih _ _)
  | write address value _ ih => exact trans (write bus address value) (ih _)

/-! ## Where it is done -/

/-- Reads and writes are at addresses that satisfy `P` only, whatever bytes are read. -/
def Within (P : UInt16 → Prop) : Access α → Prop
  | .done _ => True
  | .read address next => P address ∧ ∀ byte, (next byte).Within P
  | .write address _ next => P address ∧ next.Within P

theorem Within.bind {P : UInt16 → Prop} {program : Access α} {f : α → Access γ}
    (h : program.Within P) (hf : ∀ value, (f value).Within P) : (program.bind f).Within P := by
  induction program with
  | done value => exact hf value
  | read _ _ ih => exact ⟨h.1, fun byte => ih byte (h.2 byte)⟩
  | write _ _ _ ih => exact ⟨h.1, ih h.2⟩

/-- What reads and writes at those addresses keep, such a program keeps. -/
theorem Within.keeps [Bus β] {P : UInt16 → Prop} (Keeps : β → Prop)
    (hread : ∀ bus address, P address → Keeps bus → Keeps (Bus.read bus address).2)
    (hwrite : ∀ bus address value, P address → Keeps bus → Keeps (Bus.write bus address value))
    {program : Access α} (h : program.Within P) {bus : β} (hbus : Keeps bus) :
    Keeps (program.run bus).2 := by
  induction program generalizing bus with
  | done => exact hbus
  | read address _ ih => exact ih _ (h.2 _) (hread bus address h.1 hbus)
  | write address value _ ih => exact ih h.2 (hwrite bus address value h.1 hbus)

/-! ## What is done -/

/-- What a program does on a bus, in order. -/
def events [Bus β] (program : Access α) (bus : β) : List BusEvent :=
  (program.run ({ bus } : Traced β)).2.events.toList

theorem events_run [Bus β] (program : Access α) (bus : β) (log : Array BusEvent) :
    (program.run (⟨bus, log⟩ : Traced β)).2.events.toList = log.toList ++ program.events bus := by
  unfold events
  induction program generalizing bus log with
  | done => simp
  | read address next ih =>
    have hnext (log : Array BusEvent) :=
      ih (Bus.read bus address).1 (Bus.read bus address).2
        (log.push (.read address (Bus.read bus address).1))
    refine (hnext log).trans ?_
    rw [Array.toList_push, List.append_assoc]
    exact congrArg (log.toList ++ ·) (hnext #[]).symm
  | write address value next ih =>
    have hnext (log : Array BusEvent) :=
      ih (Bus.write bus address value) (log.push (.write address value))
    refine (hnext log).trans ?_
    rw [Array.toList_push, List.append_assoc]
    exact congrArg (log.toList ++ ·) (hnext #[]).symm

@[simp] theorem events_done [Bus β] (value : α) (bus : β) : (done value).events bus = [] := rfl

@[simp] theorem events_read [Bus β] (address : UInt16) (next : UInt8 → Access α) (bus : β) :
    (read address next).events bus =
      .read address (Bus.read bus address).1 ::
        (next (Bus.read bus address).1).events (Bus.read bus address).2 :=
  events_run (next (Bus.read bus address).1) _ #[.read address (Bus.read bus address).1]

@[simp] theorem events_write [Bus β] (address : UInt16) (value : UInt8) (next : Access α)
    (bus : β) :
    (write address value next).events bus =
      .write address value :: next.events (Bus.write bus address value) :=
  events_run next _ #[.write address value]

theorem events_bind [Bus β] (program : Access α) (f : α → Access γ) (bus : β) :
    (program.bind f).events bus =
      program.events bus ++ (f (program.run bus).1).events (program.run bus).2 := by
  induction program generalizing bus with
  | done => rfl
  | read _ _ ih => simp [ih]
  | write _ _ _ ih => simp [ih]

end Access

/-! ## Two buses -/

namespace Bus

variable {α β γ : Type} [Bus β] [Bus γ]

/-- Related buses answer a read alike, and the same access on both leaves them related. -/
structure Bisimulation (R : β → γ → Prop) : Prop where
  byte : ∀ {left right}, R left right → ∀ address,
    (Bus.read left address).1 = (Bus.read right address).1
  read : ∀ {left right}, R left right → ∀ address,
    R (Bus.read left address).2 (Bus.read right address).2
  write : ∀ {left right}, R left right → ∀ address value,
    R (Bus.write left address value) (Bus.write right address value)

namespace Bisimulation

variable {R : β → γ → Prop}

/-- A program sees the world only through the bytes it reads. -/
theorem run (hR : Bisimulation R) (program : Access α) {left : β} {right : γ}
    (h : R left right) :
    (program.run left).1 = (program.run right).1 ∧
      R (program.run left).2 (program.run right).2 := by
  induction program generalizing left right with
  | done value => exact ⟨rfl, h⟩
  | read address next ih =>
    rw [Access.run_read, Access.run_read, hR.byte h address]
    exact ih _ (hR.read h address)
  | write address value next ih => exact ih (hR.write h address value)

theorem traced (hR : Bisimulation R) : Bisimulation fun (left : Traced β) (right : Traced γ) =>
    R left.bus right.bus ∧ left.events = right.events where
  byte h address := hR.byte h.1 address
  read := by
    rintro ⟨left, events⟩ ⟨right, _⟩ ⟨h, rfl⟩ address
    refine ⟨hR.read h address, ?_⟩
    show events.push _ = events.push _
    rw [hR.byte h address]
  write := by
    rintro ⟨left, events⟩ ⟨right, _⟩ ⟨h, rfl⟩ address value
    exact ⟨hR.write h address value, rfl⟩

theorem untraced : Bisimulation fun (traced : Traced β) (bus : β) => traced.bus = bus where
  byte := by rintro _ _ rfl _; rfl
  read := by rintro _ _ rfl _; rfl
  write := by rintro _ _ rfl _ _; rfl

end Bisimulation
end Bus
end Console7800
