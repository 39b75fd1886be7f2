/-!
# Doubles

Numbers of double precision as their 64 bits, in which one NaN can be told from another. Arithmetic
on a NaN keeps its sign and its payload.
-/

namespace Console7800

structure Double where
  bits : UInt64
  deriving Repr, DecidableEq, Inhabited

namespace Double

def ofFloat (x : Float) : Double := ⟨x.toBits⟩

def toFloat (x : Double) : Float := .ofBits x.bits

/-- The exponent is full and the rest is not zero. -/
def isNaN (x : Double) : Bool := 0x7FF0000000000000 < x.bits &&& 0x7FFFFFFFFFFFFFFF

/-- The bit that sets quiet NaNs apart from signalling ones. -/
def quietBit : UInt64 := 0x0008000000000000

/-- What arithmetic with `f` makes of a number. A NaN comes out as itself, made quiet. -/
def map (f : Float → Float) (x : Double) : Double :=
  if x.isNaN then ⟨x.bits ||| quietBit⟩ else ofFloat (f x.toFloat)

end Double
end Console7800
