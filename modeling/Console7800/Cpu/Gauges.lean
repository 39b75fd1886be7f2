import Console7800.Cpu
import Console7800.Inspection

/-!
# What the processor shows
-/

namespace Console7800

def Cpu.gauges : Gauges Cpu := [
  ("pc", fun cpu => .word cpu.registers.pc),
  ("a", fun cpu => .byte cpu.registers.a),
  ("x", fun cpu => .byte cpu.registers.x),
  ("y", fun cpu => .byte cpu.registers.y),
  ("s", fun cpu => .byte cpu.registers.s),
  ("p", fun cpu => .byte cpu.registers.p.toByte),
  ("flags.c", fun cpu => .flag cpu.registers.p.carry),
  ("flags.z", fun cpu => .flag cpu.registers.p.zero),
  ("flags.i", fun cpu => .flag cpu.registers.p.irqDisable),
  ("flags.d", fun cpu => .flag cpu.registers.p.decimal),
  ("flags.b", fun cpu => .flag cpu.registers.p.brk),
  ("flags.v", fun cpu => .flag cpu.registers.p.overflow),
  ("flags.n", fun cpu => .flag cpu.registers.p.negative),
  ("opcode", fun cpu => .byte cpu.opcode),
  ("half_cycle", fun cpu => .flag cpu.halfCycle),
  ("high_score_set", fun cpu => .flag cpu.highScoreEntered),
  ("instructions", fun cpu => .counter cpu.instructions)]

end Console7800
