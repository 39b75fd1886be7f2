import Console7800.Memory

/-!
# The display chip

What the scanline loop asks of the chip that draws, and a stand-in that draws nothing and charges a
fixed price for every displayed line.
-/

namespace Console7800

/-- What the display chip did on a line: the quarter-cycles for which it held the bus, and whether
its program asks for an interrupt. -/
structure LineReport where
  cycles : Nat := 0
  interrupt : Bool := false
  deriving Repr, DecidableEq, Inhabited

class DisplayChip (μ : Type) where
  reset : μ → μ
  /-- Draw a line from the lists in memory. -/
  render : μ → Nat → Memory → LineReport × μ

/-- The price of a line that is charged if nothing else is said. -/
def IdleDisplay.defaultCost : Nat := 28

/-- A display chip that draws nothing and charges `cost` for each line outside blanking while its
memory access is on. -/
structure IdleDisplay where
  cost : Nat := IdleDisplay.defaultCost
  /-- Lines charged since the last reset. -/
  lines : Nat := 0
  deriving Repr, DecidableEq, Inhabited

namespace IdleDisplay

def render (chip : IdleDisplay) (memory : Memory) : LineReport × IdleDisplay :=
  if memory.dmaEnabled && !memory.inBlank then
    ({ cycles := chip.cost }, { chip with lines := chip.lines + 1 })
  else ({}, chip)

end IdleDisplay

instance : DisplayChip IdleDisplay where
  reset chip := { chip with lines := 0 }
  render chip _ memory := chip.render memory

end Console7800
