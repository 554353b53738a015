import Cabinet.Main
import Cabinet.Proofs.Machine.Control
import Cabinet.Proofs.Machine.Spending
import Cabinet.Proofs.Board.Budget
import Cabinet.Proofs.Board.Schedule
import Cabinet.Proofs.Machine.Simulation
import Cabinet.Proofs.Board.SavedState
import Cabinet.Proofs.Memory
import Cabinet.Proofs.Board.Reachable
import Cabinet.Proofs.Board.Resume
import Cabinet.Proofs.Board.Lifecycle
import Cabinet.Proofs.Cpu.Opcode
import Cabinet.Proofs.Machine.Sequencing
import Cabinet.Proofs.Cpu.Word
import Cabinet.Proofs.Machine.OverMemory
import Cabinet.Proofs.Machine.FlagDiscipline
import Cabinet.Proofs.Machine.PortTraffic
import Cabinet.Proofs.Machine.Lockstep
import Cabinet.Proofs.Device.Channel
import Cabinet.Proofs.Device.Delivery
import Cabinet.Proofs.Board.Acceptance
import Cabinet.Proofs.Board.DeviceRange
import Cabinet.Proofs.Board.SavedPicture
import Cabinet.Proofs.Board.HeldButtons
import Cabinet.Proofs.Board.MountHistory
import Cabinet.Proofs.Board.MountPoints
import Cabinet.Proofs.Config.RoundTrip
import Cabinet.Proofs.Machine.Calculating
import Cabinet.Proofs.Machine.DecimalAddition
import Cabinet.Proofs.Board.PortBinding
import Cabinet.Proofs.Log.Journal
import Cabinet.Proofs.Machine.Tracing
import Cabinet.Proofs.Board.FrameTrace
import Cabinet.Proofs.CommandLine.Noting
import Cabinet.Proofs.CommandLine.Indistinct
import Cabinet.Proofs.CommandLine.Fidelity
import Cabinet.Proofs.Machine.Storing
import Cabinet.Proofs.Machine.Stack
import Cabinet.Proofs.Machine.Handler
import Cabinet.Proofs.Machine.LongArithmetic
import Cabinet.Proofs.Machine.Halt
import Cabinet.Proofs.Board.TakingBack
import Cabinet.Proofs.Board.RomSet
import Cabinet.Proofs.Board.Remounting
import Cabinet.Proofs.Board.Transfers
import Cabinet.Proofs.Board.FrameCounter
import Cabinet.Proofs.Frame
import Cabinet.Proofs.Picture.Lossless
import Cabinet.Proofs.Device.History
import Cabinet.Proofs.Device.Periscope
import Cabinet.Proofs.Picture.Tiles
import Cabinet.Proofs.Device.Blocks
import Cabinet.Proofs.Device.SoundNames
import Cabinet.Proofs.Picture.Sources
import Cabinet.Proofs.Effect
import Cabinet.Proofs.Outcome
import Cabinet.Proofs.Cpu.Listing
import Cabinet.Proofs.Machine.Execution
import Cabinet.Proofs.Device.Speaking
import Cabinet.Proofs.Picture.Shown
import Cabinet.Proofs.Board.Frames
import Cabinet.Proofs.Board.Completion
import Cabinet.Proofs.Board.Room
import Cabinet.Proofs.PortTable
