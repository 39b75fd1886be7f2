import Console7800.CommandLine.FileTree
import Console7800.Main
import Console7800.Config.Toml
import Console7800.Console.Gauges
import Console7800.SaveState
import Console7800.Counters
import Console7800.Ranges
import Console7800.Proofs.Access
import Console7800.Proofs.Cpu.Cost
import Console7800.Proofs.SystemBus.Decode
import Console7800.Proofs.Board.Parts
import Console7800.Proofs.Board.Progress
import Console7800.Proofs.Board.Raster
import Console7800.Proofs.Board.Ledger
import Console7800.Proofs.Board.Evolution
import Console7800.Proofs.SystemBus.Coherent
import Console7800.Proofs.Console.Reset
import Console7800.Proofs.SaveState.Restore
import Console7800.Proofs.Console.History
import Console7800.Proofs.SaveState.Format
import Console7800.Proofs.SaveState.RoundTrip
import Console7800.Proofs.SaveState.Forgetting
import Console7800.Proofs.Memory
import Console7800.Proofs.HighScore
import Console7800.Proofs.SaveState.Acceptance
import Console7800.Proofs.Console.Sessions
import Console7800.Proofs.SaveState.Reload
import Console7800.Proofs.SaveState.Ports
import Console7800.Proofs.Cartridge.Layout
import Console7800.Proofs.SaveState.Mapping
import Console7800.Proofs.SaveState.Handover
import Console7800.Proofs.SystemBus.Protection
import Console7800.Proofs.Cpu.Calls
import Console7800.Proofs.Board.Fusion
import Console7800.Proofs.Console.PowerCycle
import Console7800.Proofs.Cartridge.Panes
import Console7800.Proofs.Cartridge.BankModel
import Console7800.Proofs.Console.Banking
import Console7800.Proofs.Cartridge.Extent
import Console7800.Proofs.Console.Playing
import Console7800.Proofs.Console.Shadows
import Console7800.Proofs.Board.Bill
import Console7800.Proofs.Console.LowMemory
import Console7800.Proofs.Console.Pages
import Console7800.Proofs.Database.Append
import Console7800.Proofs.Console.Timing
import Console7800.Proofs.Console.FailedLoad
import Console7800.Proofs.Cartridge.Reach
import Console7800.Proofs.Console.BootHandover
import Console7800.Proofs.Board.Overflow
import Console7800.Proofs.Console.Overflow
import Console7800.Proofs.InputQueue
import Console7800.Proofs.Timer
import Console7800.Proofs.Board.Turns
import Console7800.Proofs.Board.Moves
import Console7800.Proofs.Cpu.Surcharge
import Console7800.Proofs.Cpu.Footprint
import Console7800.Proofs.Cpu.StackPage
import Console7800.Proofs.Cpu.Nesting
import Console7800.Proofs.Cpu.LongArithmetic
import Console7800.Proofs.InputQueue.Holds
import Console7800.Proofs.Cartridge.Tail
import Console7800.Proofs.Console.RecordedBank
import Console7800.Proofs.Console.Supercarts
import Console7800.Proofs.Console.Ranges
import Console7800.Proofs.Database.Records
import Console7800.Proofs.Database.AddedLines
import Console7800.Proofs.SystemBus.Peek
import Console7800.Proofs.Board.Sensor
import Console7800.Proofs.Console.DisplayStatus
import Console7800.Proofs.Cpu.HighScoreEntry
import Console7800.Proofs.Cpu.DecimalZero
import Console7800.Proofs.Cpu.StackOrder
import Console7800.Proofs.Timer.Overflow
