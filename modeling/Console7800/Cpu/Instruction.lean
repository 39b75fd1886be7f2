import Console7800.Cpu.Registers

/-!
# Instructions

The documented instructions by class, and the matrix that gives each opcode byte its instruction
and base cost. A byte with no entry is inert: it is fetched and nothing else happens, at no cost.
-/

namespace Console7800

/-- How an instruction names the byte it works on. -/
inductive Mode where
  | immediate
  | zeroPage | zeroPageX | zeroPageY
  | absolute | absoluteX | absoluteY
  | indexedIndirect | indirectIndexed
  deriving Repr, DecidableEq

/-- What is done with a byte that was read. -/
inductive ReadOp where
  | load (target : Register)
  | and | or | xor
  | add | subtract
  | compare (register : Register)
  | test
  deriving Repr, DecidableEq

/-- Changes of one byte, in memory or in a register. -/
inductive Modification where
  | shiftLeft | shiftRight | rotateLeft | rotateRight | increment | decrement
  deriving Repr, DecidableEq

inductive Instruction where
  | read (op : ReadOp) (mode : Mode)
  | store (source : Register) (mode : Mode)
  | modify (op : Modification) (mode : Mode)
  | adjust (op : Modification) (register : Register)
  | transfer (source target : Register)
  | tsx | txs
  | pha | php | pla | plp
  | jmp | jmpIndirect | jsr | rts | rti | brk
  | branch (flag : Flag) (wanted : Bool)
  | assign (flag : Flag) (value : Bool)
  | nop
  deriving Repr, DecidableEq

/-- A matrix entry: an instruction and its cost before penalties. -/
structure Opcode where
  instruction : Instruction
  cycles : Nat
  deriving Repr, DecidableEq

namespace Opcode

/-- The opcode matrix, sixteen entries to a row. -/
def matrix : Array (Option Opcode) :=
  #[
    -- $00
    some ⟨.brk, 7⟩, some ⟨.read .or .indexedIndirect, 6⟩, none, none, none,
    some ⟨.read .or .zeroPage, 3⟩, some ⟨.modify .shiftLeft .zeroPage, 5⟩, none, some ⟨.php, 3⟩,
    some ⟨.read .or .immediate, 2⟩, some ⟨.adjust .shiftLeft .a, 2⟩, none, none,
    some ⟨.read .or .absolute, 4⟩, some ⟨.modify .shiftLeft .absolute, 6⟩, none,
    -- $10
    some ⟨.branch .negative false, 2⟩, some ⟨.read .or .indirectIndexed, 5⟩, none, none, none,
    some ⟨.read .or .zeroPageX, 4⟩, some ⟨.modify .shiftLeft .zeroPageX, 6⟩, none,
    some ⟨.assign .carry false, 2⟩, some ⟨.read .or .absoluteY, 4⟩, none, none, none,
    some ⟨.read .or .absoluteX, 4⟩, some ⟨.modify .shiftLeft .absoluteX, 7⟩, none,
    -- $20
    some ⟨.jsr, 6⟩, some ⟨.read .and .indexedIndirect, 6⟩, none, none,
    some ⟨.read .test .zeroPage, 3⟩, some ⟨.read .and .zeroPage, 3⟩,
    some ⟨.modify .rotateLeft .zeroPage, 5⟩, none, some ⟨.plp, 4⟩,
    some ⟨.read .and .immediate, 2⟩, some ⟨.adjust .rotateLeft .a, 2⟩, none,
    some ⟨.read .test .absolute, 4⟩, some ⟨.read .and .absolute, 4⟩,
    some ⟨.modify .rotateLeft .absolute, 6⟩, none,
    -- $30
    some ⟨.branch .negative true, 2⟩, some ⟨.read .and .indirectIndexed, 5⟩, none, none, none,
    some ⟨.read .and .zeroPageX, 4⟩, some ⟨.modify .rotateLeft .zeroPageX, 6⟩, none,
    some ⟨.assign .carry true, 2⟩, some ⟨.read .and .absoluteY, 4⟩, none, none, none,
    some ⟨.read .and .absoluteX, 4⟩, some ⟨.modify .rotateLeft .absoluteX, 7⟩, none,
    -- $40
    some ⟨.rti, 6⟩, some ⟨.read .xor .indexedIndirect, 6⟩, none, none, none,
    some ⟨.read .xor .zeroPage, 3⟩, some ⟨.modify .shiftRight .zeroPage, 5⟩, none, some ⟨.pha, 3⟩,
    some ⟨.read .xor .immediate, 2⟩, some ⟨.adjust .shiftRight .a, 2⟩, none, some ⟨.jmp, 3⟩,
    some ⟨.read .xor .absolute, 4⟩, some ⟨.modify .shiftRight .absolute, 6⟩, none,
    -- $50
    some ⟨.branch .overflow false, 2⟩, some ⟨.read .xor .indirectIndexed, 5⟩, none, none, none,
    some ⟨.read .xor .zeroPageX, 4⟩, some ⟨.modify .shiftRight .zeroPageX, 6⟩, none,
    some ⟨.assign .irqDisable false, 2⟩, some ⟨.read .xor .absoluteY, 4⟩, none, none, none,
    some ⟨.read .xor .absoluteX, 4⟩, some ⟨.modify .shiftRight .absoluteX, 7⟩, none,
    -- $60
    some ⟨.rts, 6⟩, some ⟨.read .add .indexedIndirect, 6⟩, none, none, none,
    some ⟨.read .add .zeroPage, 3⟩, some ⟨.modify .rotateRight .zeroPage, 5⟩, none,
    some ⟨.pla, 4⟩, some ⟨.read .add .immediate, 2⟩, some ⟨.adjust .rotateRight .a, 2⟩, none,
    some ⟨.jmpIndirect, 5⟩, some ⟨.read .add .absolute, 4⟩,
    some ⟨.modify .rotateRight .absolute, 6⟩, none,
    -- $70
    some ⟨.branch .overflow true, 2⟩, some ⟨.read .add .indirectIndexed, 5⟩, none, none, none,
    some ⟨.read .add .zeroPageX, 4⟩, some ⟨.modify .rotateRight .zeroPageX, 6⟩, none,
    some ⟨.assign .irqDisable true, 2⟩, some ⟨.read .add .absoluteY, 4⟩, none, none, none,
    some ⟨.read .add .absoluteX, 4⟩, some ⟨.modify .rotateRight .absoluteX, 7⟩, none,
    -- $80
    none, some ⟨.store .a .indexedIndirect, 6⟩, none, none, some ⟨.store .y .zeroPage, 3⟩,
    some ⟨.store .a .zeroPage, 3⟩, some ⟨.store .x .zeroPage, 3⟩, none,
    some ⟨.adjust .decrement .y, 2⟩, none, some ⟨.transfer .x .a, 2⟩, none,
    some ⟨.store .y .absolute, 4⟩, some ⟨.store .a .absolute, 4⟩, some ⟨.store .x .absolute, 4⟩,
    none,
    -- $90
    some ⟨.branch .carry false, 2⟩, some ⟨.store .a .indirectIndexed, 6⟩, none, none,
    some ⟨.store .y .zeroPageX, 4⟩, some ⟨.store .a .zeroPageX, 4⟩,
    some ⟨.store .x .zeroPageY, 4⟩, none, some ⟨.transfer .y .a, 2⟩,
    some ⟨.store .a .absoluteY, 5⟩, some ⟨.txs, 2⟩, none, none, some ⟨.store .a .absoluteX, 5⟩,
    none, none,
    -- $A0
    some ⟨.read (.load .y) .immediate, 2⟩, some ⟨.read (.load .a) .indexedIndirect, 6⟩,
    some ⟨.read (.load .x) .immediate, 2⟩, none, some ⟨.read (.load .y) .zeroPage, 3⟩,
    some ⟨.read (.load .a) .zeroPage, 3⟩, some ⟨.read (.load .x) .zeroPage, 3⟩, none,
    some ⟨.transfer .a .y, 2⟩, some ⟨.read (.load .a) .immediate, 2⟩, some ⟨.transfer .a .x, 2⟩,
    none, some ⟨.read (.load .y) .absolute, 4⟩, some ⟨.read (.load .a) .absolute, 4⟩,
    some ⟨.read (.load .x) .absolute, 4⟩, none,
    -- $B0
    some ⟨.branch .carry true, 2⟩, some ⟨.read (.load .a) .indirectIndexed, 5⟩, none, none,
    some ⟨.read (.load .y) .zeroPageX, 4⟩, some ⟨.read (.load .a) .zeroPageX, 4⟩,
    some ⟨.read (.load .x) .zeroPageY, 4⟩, none, some ⟨.assign .overflow false, 2⟩,
    some ⟨.read (.load .a) .absoluteY, 4⟩, some ⟨.tsx, 2⟩, none,
    some ⟨.read (.load .y) .absoluteX, 4⟩, some ⟨.read (.load .a) .absoluteX, 4⟩,
    some ⟨.read (.load .x) .absoluteY, 4⟩, none,
    -- $C0
    some ⟨.read (.compare .y) .immediate, 2⟩, some ⟨.read (.compare .a) .indexedIndirect, 6⟩,
    none, none, some ⟨.read (.compare .y) .zeroPage, 3⟩, some ⟨.read (.compare .a) .zeroPage, 3⟩,
    some ⟨.modify .decrement .zeroPage, 5⟩, none, some ⟨.adjust .increment .y, 2⟩,
    some ⟨.read (.compare .a) .immediate, 2⟩, some ⟨.adjust .decrement .x, 2⟩, none,
    some ⟨.read (.compare .y) .absolute, 4⟩, some ⟨.read (.compare .a) .absolute, 4⟩,
    some ⟨.modify .decrement .absolute, 6⟩, none,
    -- $D0
    some ⟨.branch .zero false, 2⟩, some ⟨.read (.compare .a) .indirectIndexed, 5⟩, none, none,
    none, some ⟨.read (.compare .a) .zeroPageX, 4⟩, some ⟨.modify .decrement .zeroPageX, 6⟩, none,
    some ⟨.assign .decimal false, 2⟩, some ⟨.read (.compare .a) .absoluteY, 4⟩, none, none, none,
    some ⟨.read (.compare .a) .absoluteX, 4⟩, some ⟨.modify .decrement .absoluteX, 7⟩, none,
    -- $E0
    some ⟨.read (.compare .x) .immediate, 2⟩, some ⟨.read .subtract .indexedIndirect, 6⟩, none,
    none, some ⟨.read (.compare .x) .zeroPage, 3⟩, some ⟨.read .subtract .zeroPage, 3⟩,
    some ⟨.modify .increment .zeroPage, 5⟩, none, some ⟨.adjust .increment .x, 2⟩,
    some ⟨.read .subtract .immediate, 2⟩, some ⟨.nop, 2⟩, none,
    some ⟨.read (.compare .x) .absolute, 4⟩, some ⟨.read .subtract .absolute, 4⟩,
    some ⟨.modify .increment .absolute, 6⟩, none,
    -- $F0
    some ⟨.branch .zero true, 2⟩, some ⟨.read .subtract .indirectIndexed, 5⟩, none, none, none,
    some ⟨.read .subtract .zeroPageX, 4⟩, some ⟨.modify .increment .zeroPageX, 6⟩, none,
    some ⟨.assign .decimal true, 2⟩, some ⟨.read .subtract .absoluteY, 4⟩, none, none, none,
    some ⟨.read .subtract .absoluteX, 4⟩, some ⟨.modify .increment .absoluteX, 7⟩, none
  ]

theorem size_matrix : matrix.size = 256 := by decide +kernel

/-- The entry of an opcode byte. -/
def ofByte? (byte : UInt8) : Option Opcode :=
  have : byte.toNat < matrix.size := size_matrix ▸ byte.toNat_lt
  matrix[byte.toNat]

/-- What an opcode byte costs before penalties. -/
def baseCycles (byte : UInt8) : Nat :=
  match ofByte? byte with
  | some opcode => opcode.cycles
  | none => 0

end Opcode
end Console7800
