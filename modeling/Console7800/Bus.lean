/-!
# Buses and what is done over them

A `Bus` answers byte reads and takes byte writes at 16-bit addresses; a read may change it too.
An `Access` is a computation that sees the world only through the bytes it reads: a tree of reads
and writes with a result at each leaf. `Access.run` plays the tree on a bus, and `Traced` is a bus
that also keeps the list of what was done.
-/

namespace Console7800

class Bus (β : Type) where
  read : β → UInt16 → UInt8 × β
  write : β → UInt16 → UInt8 → β

inductive Access (α : Type) where
  | done (value : α)
  | read (address : UInt16) (next : UInt8 → Access α)
  | write (address : UInt16) (value : UInt8) (next : Access α)

namespace Access

variable {α β γ : Type}

@[simp] def bind : Access α → (α → Access γ) → Access γ
  | .done value, f => f value
  | .read address next, f => .read address fun byte => (next byte).bind f
  | .write address value next, f => .write address value (next.bind f)

instance : Monad Access where
  pure := .done
  bind := bind

@[simp] theorem pure_def (value : α) : (pure value : Access α) = .done value := rfl

@[simp] theorem bind_def (program : Access α) (f : α → Access γ) : program >>= f = program.bind f :=
  rfl

theorem bind_done (program : Access α) : program.bind .done = program := by
  induction program with
  | done => rfl
  | read _ _ ih => simp [ih]
  | write _ _ _ ih => simp [ih]

theorem bind_assoc {δ : Type} (program : Access α) (f : α → Access γ) (g : γ → Access δ) :
    (program.bind f).bind g = program.bind fun value => (f value).bind g := by
  induction program with
  | done => rfl
  | read _ _ ih => simp [ih]
  | write _ _ _ ih => simp [ih]

instance : LawfulMonad Access :=
  LawfulMonad.mk' Access (fun program => bind_done program) (fun _ _ => rfl) bind_assoc

/-- Read one byte. -/
def get (address : UInt16) : Access UInt8 := .read address .done

/-- Write one byte. -/
def put (address : UInt16) (value : UInt8) : Access Unit := .write address value (.done ())

/-- Play the program on a bus. -/
def run [Bus β] : Access α → β → α × β
  | .done value, bus => (value, bus)
  | .read address next, bus =>
    match Bus.read bus address with
    | (byte, bus) => (next byte).run bus
  | .write address value next, bus => next.run (Bus.write bus address value)

@[simp] theorem run_done [Bus β] (value : α) (bus : β) : (done value).run bus = (value, bus) := rfl

@[simp] theorem run_read [Bus β] (address : UInt16) (next : UInt8 → Access α) (bus : β) :
    (read address next).run bus =
      (next (Bus.read bus address).1).run (Bus.read bus address).2 := rfl

@[simp] theorem run_write [Bus β] (address : UInt16) (value : UInt8) (next : Access α) (bus : β) :
    (write address value next).run bus = next.run (Bus.write bus address value) := rfl

theorem run_bind [Bus β] (program : Access α) (f : α → Access γ) (bus : β) :
    (program.bind f).run bus = (f (program.run bus).1).run (program.run bus).2 := by
  induction program generalizing bus with
  | done => rfl
  | read _ _ ih => simp [ih]
  | write _ _ _ ih => simp [ih]

end Access

/-! ## Words -/

/-- The word whose low and high bytes are given. -/
def wordOf (low high : UInt8) : UInt16 := low.toUInt16 + high.toUInt16 * 256

def lowByte (word : UInt16) : UInt8 := word.toUInt8

def highByte (word : UInt16) : UInt8 := (word / 256).toUInt8

theorem toNat_wordOf (low high : UInt8) :
    (wordOf low high).toNat = low.toNat + 256 * high.toNat := by
  have hl := low.toNat_lt
  have hh := high.toNat_lt
  simp [wordOf, UInt16.toNat_add, UInt16.toNat_mul]
  omega

theorem toNat_lowByte (word : UInt16) : (lowByte word).toNat = word.toNat % 256 := by
  simp [lowByte]

theorem toNat_highByte (word : UInt16) : (highByte word).toNat = word.toNat / 256 := by
  have := word.toNat_lt
  simp [highByte, UInt16.toNat_div]
  omega

@[simp] theorem wordOf_bytes (word : UInt16) : wordOf (lowByte word) (highByte word) = word := by
  apply UInt16.toNat_inj.1
  rw [toNat_wordOf, toNat_lowByte, toNat_highByte]
  omega

/-- Read the word stored low byte first at `address`. -/
def Access.getWord (address : UInt16) : Access UInt16 := do
  let low ← get address
  let high ← get (address + 1)
  return wordOf low high

/-! ## Traces -/

inductive BusEvent where
  | read (address : UInt16) (value : UInt8)
  | write (address : UInt16) (value : UInt8)
  deriving Repr, DecidableEq

/-- A bus that keeps what was done over it, oldest first. -/
structure Traced (β : Type) where
  bus : β
  events : Array BusEvent := #[]

instance {β : Type} [Bus β] : Bus (Traced β) where
  read traced address :=
    match Bus.read traced.bus address with
    | (byte, bus) => (byte, ⟨bus, traced.events.push (.read address byte)⟩)
  write traced address value :=
    ⟨Bus.write traced.bus address value, traced.events.push (.write address value)⟩

end Console7800
